import HourlyIngest.Proofs.Database.Transaction
import HourlyIngest.Proofs.Sweep.Completion

/-!
# What has been loaded was committed

An answer with a count from a writer means a transaction that the server has acknowledged from its
start to its commit, or that there were no rows to be sent (`committed_of_insertRows`).  So the
exchanges of a sweep that has loaded all files fall into one such part for each file, with the rows
that the file had at the beginning of the sweep (`exists_segments`).
-/

namespace HourlyIngest

open Database

variable {σ : Type} {server : Server σ} {writer : Writer}

theorem Database.Writer.quiet_sink (server : Server σ) (writer : Writer) :
    (writer.sink server).Quiet := fun _ _ _ => rfl

/-- The rows were committed in one transaction, all of whose requests were granted.  Where there are
no rows, nothing was sent. -/
def Committed (writer : Writer) (rows : List Observation) (sent : List Exchange) : Prop :=
  if rows = [] then sent = []
  else requests sent = .startTransaction :: (writer.work rows ++ [.commit]) ∧
    ∀ exchange ∈ sent, exchange.reply.isGranted = true

/-- A call that is answered with a count has committed its rows. -/
theorem committed_of_insertRows {before after : Session σ} {file : String}
    {rows : List Observation} {count : Nat}
    (hinsert : before.insertRows server writer file rows = (.ok count, after)) :
    ∃ sent, after.exchanges = before.exchanges ++ sent ∧ Committed writer rows sent := by
  by_cases hrows : rows = []
  · subst hrows
    rw [Session.insertRows, if_pos List.isEmpty_nil] at hinsert
    cases hinsert
    exact ⟨[], (List.append_nil _).symm, rfl⟩
  · obtain ⟨sent, hcall⟩ := Session.insertRows_conversation hrows hinsert
    refine ⟨sent, hcall.reaches.exchanges, ?_⟩
    rw [Committed, if_neg hrows]
    cases hcall with
    | decided hopen hreply hgranted hwork hcount hdecision hreaches =>
        rcases hdecision with ⟨hlast, -⟩ | ⟨-, failure, hfailure⟩
        · refine ⟨by simp [hwork], List.forall_mem_cons.mpr ⟨hreply, ?_⟩⟩
          exact List.forall_mem_append.mpr ⟨hgranted, by simpa using hlast⟩
        · cases hfailure

/-- The part of the exchanges that belongs to a file: its rows, as they are read from a file system,
were committed. -/
def CommittedFrom (initial : FileSystem) (writer : Writer) (file : SourceFile)
    (sent : List Exchange) : Prop :=
  ∃ contents, Contents.ofPath initial file.path = .ok contents ∧
    Committed writer contents.rows sent

/-- A turn that loads its file commits the rows that the file had. -/
theorem Turn.Loads.committed {options : SweepOptions} {turn : Turn (Session σ)}
    (hloads : turn.Loads (writer.sink server) options) {initial : FileSystem}
    (hthinned : initial.Thinned turn.before.files) :
    ∃ sent, (turn.after (writer.sink server) options).sink.exchanges =
      turn.before.sink.exchanges ++ sent ∧ CommittedFrom initial writer turn.file sent := by
  obtain ⟨contents, after, hread, hinsert, hafter, -⟩ := hloads.exists_contents
  cases hcall : turn.before.sink.insertRows server writer turn.file.name contents.rows with
  | mk answer session =>
      simp only [Writer.sink, hcall, Prod.mk.injEq] at hinsert
      obtain ⟨rfl, rfl⟩ := hinsert
      obtain ⟨sent, hexchanges, hcommitted⟩ := committed_of_insertRows hcall
      refine ⟨sent, ?_, contents, Contents.ofPath_of_thinned hthinned hread, hcommitted⟩
      rw [hafter, hexchanges]

/-- The exchanges of a sweep that loads all files are made up of a part for each of them. -/
theorem exists_segments {options : SweepOptions} {world : World (Session σ)}
    {files : List SourceFile} {initial : FileSystem} (hthinned : initial.Thinned world.files)
    (hall : ∀ turn ∈ turns (writer.sink server) options world files,
      turn.Loads (writer.sink server) options) :
    ∃ segments, (loadFiles (writer.sink server) options world files).2.sink.exchanges =
      world.sink.exchanges ++ segments.flatten ∧
        List.Forall₂ (CommittedFrom initial writer) files segments := by
  induction files generalizing world with
  | nil => exact ⟨[], (List.append_nil _).symm, .nil⟩
  | cons file rest ih =>
      have hfirst : Turn.Loads (writer.sink server) options ⟨file, world⟩ :=
        hall _ (mem_turns_cons.mpr (Or.inl rfl))
      have hgo := hfirst.stop?_eq_none
      rw [turns_cons_of_go hgo, List.forall_mem_cons] at hall
      obtain ⟨sent, hsent, hcommitted⟩ := hfirst.committed hthinned
      have hthinned' := thinned_after (writer.quiet_sink server) options ⟨file, world⟩ hthinned
      obtain ⟨segments, hsegments, hrest⟩ := ih hthinned' hall.2
      refine ⟨sent :: segments, ?_, .cons hcommitted hrest⟩
      rw [loadFiles_cons_of_go hgo, hsegments, hsent, List.flatten_cons, List.append_assoc]

end HourlyIngest
