import HourlyIngest.Proofs.FileSystem.Removal
import HourlyIngest.Proofs.Sweep.Contract
import HourlyIngest.Proofs.Sweep.Turn

/-!
# Only what has been loaded is deleted

A sweep takes files away, and taking away the wrong one loses data.  `Turn.Removes` lists everything
that has to go right before the entry of a file may disappear: removal is wanted, the file was read,
the sink was given exactly the rows that were read and has reported their number, and the removal
itself succeeded.  A turn changes the file system at such a place and nowhere else
(`node?_after_of_removes`, `node?_after_of_not_removes`); the statement on sweeps of any length
follows by induction on the list of files.
-/

namespace HourlyIngest

variable {σ : Type}

/-- Something stood at a place before, and nothing stands there afterwards. -/
def Removed (before after : FileSystem) (place : Location) : Prop :=
  before.node? place ≠ none ∧ after.node? place = none

section Load

variable (sink : Sink σ) (options : SweepOptions)

/-- The turn takes away what stands at a place: removal is wanted, the file was read, the sink was
given its rows and has reported their number, and the path of the file, which leads to the place,
was removed; nothing else has happened since that answer. -/
def Turn.Removes (turn : Turn σ) (place : Location) : Prop :=
  options.deleteAfterLoad = true ∧
    ∃ contents after files,
      Contents.ofPath turn.before.files turn.file.path = .ok contents ∧
        sink.insert turn.before turn.file.name contents.rows = (.ok contents.rows.length, after) ∧
        after.files.locate .entry turn.file.path = .ok place ∧
        after.files.remove turn.file.path = .ok files ∧
        turn.after sink options = { after with files := files }

variable {sink options} {turn : Turn σ} {place : Location}

/-! ## One turn -/

/-- A turn that removes something leaves the file system with one place erased. -/
theorem Turn.files_after_of_removes (hquiet : sink.Quiet)
    (hremoves : turn.Removes sink options place) :
    (turn.after sink options).files = turn.before.files.erase place ∧
      ∃ node, turn.before.files.node? place = some node ∧ node ≠ .directory := by
  obtain ⟨-, contents, after, files, -, hinsert, hlocate, hremove, hafter⟩ := hremoves
  obtain ⟨found, node, hlookup, hnode, -, -, rfl⟩ := FileSystem.remove_eq_ok_iff.mp hremove
  obtain ⟨hfound, hstands⟩ := FileSystem.lookup_eq_ok_iff.mp hlookup
  obtain rfl : found = place := Except.ok.inj (hfound.symm.trans hlocate)
  rw [hquiet.files_eq hinsert] at hstands
  refine ⟨?_, node, hstands, hnode⟩
  rw [hafter, hquiet.files_eq hinsert]

/-- A turn leaves the file system as it was, or removes something from it. -/
theorem Turn.files_after (hquiet : sink.Quiet) (turn : Turn σ) :
    (turn.after sink options).files = turn.before.files ∨
      ∃ place, turn.Removes sink options place := by
  have hending := turn.ending sink options
  generalize turn.result sink options = result at hending
  generalize hafter : turn.after sink options = after at hending ⊢
  cases hending with
  | unreadable hread => exact Or.inl rfl
  | refused hread hinsert => exact Or.inl (hquiet.files_eq hinsert)
  | miscounted hread hinsert hcount => exact Or.inl (hquiet.files_eq hinsert)
  | stuck hread hinsert hwanted hremove => exact Or.inl (hquiet.files_eq hinsert)
  | kept hread hinsert hwanted => exact Or.inl (hquiet.files_eq hinsert)
  | deleted hread hinsert hwanted hremove =>
      obtain ⟨place, node, hlookup, -⟩ := FileSystem.remove_eq_ok_iff.mp hremove
      exact Or.inr ⟨place, hwanted, _, _, _, hread, hinsert,
        (FileSystem.lookup_eq_ok_iff.mp hlookup).1, hremove, hafter⟩

theorem Turn.node?_after_of_removes (hquiet : sink.Quiet)
    (hremoves : turn.Removes sink options place) :
    (turn.after sink options).files.node? place = none := by
  obtain ⟨hafter, node, hnode, hfile⟩ := Turn.files_after_of_removes hquiet hremoves
  rw [hafter, FileSystem.node?_erase, if_pos ⟨rfl, FileSystem.ne_root_of_node? hnode hfile⟩]

theorem Turn.node?_after_of_not_removes (hquiet : sink.Quiet)
    (hkeeps : ¬ turn.Removes sink options place) :
    (turn.after sink options).files.node? place = turn.before.files.node? place := by
  obtain hsame | ⟨gone, hremoves⟩ :
      (turn.after sink options).files = turn.before.files ∨
        ∃ gone, turn.Removes sink options gone :=
    Turn.files_after hquiet turn
  · rw [hsame]
  · rw [(Turn.files_after_of_removes hquiet hremoves).1]
    refine FileSystem.node?_erase_of_ne ?_
    rintro rfl
    exact hkeeps hremoves

/-- What is recorded as deleted has been removed. -/
theorem Turn.isDeleted_outcome_iff (turn : Turn σ) :
    (turn.outcome sink options).isDeleted = true ↔ ∃ place, turn.Removes sink options place := by
  constructor
  · intro hdeleted
    have hending := turn.ending sink options
    unfold Turn.outcome at hdeleted
    generalize turn.result sink options = result at hending hdeleted
    generalize hafter : turn.after sink options = after at hending
    cases hending with
    | deleted hread hinsert hwanted hremove =>
        obtain ⟨place, node, hlookup, -⟩ := FileSystem.remove_eq_ok_iff.mp hremove
        exact ⟨place, hwanted, _, _, _, hread, hinsert,
          (FileSystem.lookup_eq_ok_iff.mp hlookup).1, hremove, hafter⟩
    | _ => simp [Outcome.isDeleted] at hdeleted
  · rintro ⟨place, hwanted, contents, after, files, hread, hinsert, -, hremove, -⟩
    rw [Turn.outcome, Turn.result, loadFile_of_removed sink options hwanted hread hinsert hremove]
    rfl

/-! ## Whole sweeps -/

/-- A place that no turn of a sweep removes is as it was before. -/
theorem node?_loadFiles_of_not_removes (hquiet : sink.Quiet) {world : World σ}
    {files : List SourceFile}
    (hkeeps : ∀ turn ∈ turns sink options world files, ¬ turn.Removes sink options place) :
    (loadFiles sink options world files).2.files.node? place = world.files.node? place := by
  induction files generalizing world with
  | nil => rfl
  | cons file rest ih =>
      cases hstop : Turn.stop? sink options ⟨file, world⟩ with
      | some failure =>
          rw [turns_cons_of_stop hstop, List.forall_mem_singleton] at hkeeps
          rw [loadFiles_cons_of_stop hstop]
          exact Turn.node?_after_of_not_removes hquiet hkeeps
      | none =>
          rw [turns_cons_of_go hstop, List.forall_mem_cons] at hkeeps
          rw [loadFiles_cons_of_go hstop]
          exact (ih hkeeps.2).trans (Turn.node?_after_of_not_removes hquiet hkeeps.1)

/-- Nothing appears during a sweep: what a turn finds stood there from the beginning. -/
theorem node?_ne_none_of_turn (hquiet : sink.Quiet) {world : World σ} {files : List SourceFile}
    (hturn : turn ∈ turns sink options world files)
    (hstands : turn.before.files.node? place ≠ none) : world.files.node? place ≠ none := by
  induction files generalizing world with
  | nil => simp [turns] at hturn
  | cons file rest ih =>
      rcases mem_turns_cons.mp hturn with rfl | ⟨-, hlater⟩
      · exact hstands
      · -- the first turn cannot have removed what is still there later
        have hafter := ih hlater
        by_cases hremoves : Turn.Removes sink options ⟨file, world⟩ place
        · exact absurd (Turn.node?_after_of_removes hquiet hremoves) hafter
        · rwa [Turn.node?_after_of_not_removes hquiet hremoves] at hafter

/-- A place that is empty before a sweep is empty after it. -/
theorem node?_loadFiles_eq_none (hquiet : sink.Quiet) {world : World σ} {files : List SourceFile}
    (hnone : world.files.node? place = none) :
    (loadFiles sink options world files).2.files.node? place = none := by
  rw [node?_loadFiles_of_not_removes hquiet, hnone]
  intro turn hturn hremoves
  obtain ⟨-, node, hnode, -⟩ := Turn.files_after_of_removes hquiet hremoves
  exact node?_ne_none_of_turn hquiet hturn (by simp [hnode]) hnone

/-- What one turn of a sweep removes is gone at the end. -/
theorem node?_loadFiles_of_removes (hquiet : sink.Quiet) {world : World σ}
    {files : List SourceFile} (hturn : turn ∈ turns sink options world files)
    (hremoves : turn.Removes sink options place) :
    (loadFiles sink options world files).2.files.node? place = none := by
  induction files generalizing world with
  | nil => simp [turns] at hturn
  | cons file rest ih =>
      cases hstop : Turn.stop? sink options ⟨file, world⟩ with
      | some failure =>
          rw [turns_cons_of_stop hstop, List.mem_singleton] at hturn
          subst hturn
          rw [loadFiles_cons_of_stop hstop]
          exact Turn.node?_after_of_removes hquiet hremoves
      | none =>
          rw [turns_cons_of_go hstop, List.mem_cons] at hturn
          rw [loadFiles_cons_of_go hstop]
          rcases hturn with rfl | hlater
          · exact node?_loadFiles_eq_none hquiet (Turn.node?_after_of_removes hquiet hremoves)
          · exact ih hlater

end Load

/-- **A sweep deletes what it has loaded, and nothing else.**  With a sink that leaves the file
system alone, a place is emptied exactly if the turn of a listed file removes what stands there
(`Turn.Removes`); every other place is as it was.  Where the sweep gives a report, every file has
had its turn, and the files recorded as deleted are those whose turns have removed something. -/
theorem removed_iff_turn_removes {sink : Sink σ} (hquiet : sink.Quiet) (options : SweepOptions)
    (world : World σ) (files : List SourceFile) :
    let ran := turns sink options world files
    let left := (loadFiles sink options world files).2.files
    ran.map Turn.file <+: files ∧
      (∀ place, Removed world.files left place ↔
        ∃ turn ∈ ran, turn.Removes sink options place) ∧
      (∀ place, ¬ Removed world.files left place → left.node? place = world.files.node? place) ∧
      ∀ started finished report,
        (loadFiles sink options world files).1.report started finished = .ok report →
          ran.map Turn.file = files ∧
            List.Forall₂ (fun turn entry => entry.name = turn.file.name ∧
              (entry.outcome.isDeleted = true ↔ ∃ place, turn.Removes sink options place))
              ran report.entries := by
  intro ran left
  have hremoved : ∀ place, Removed world.files left place ↔
      ∃ turn ∈ ran, turn.Removes sink options place := by
    intro place
    constructor
    · rintro ⟨hstood, hgone⟩
      by_contra hnever
      push Not at hnever
      exact hstood ((node?_loadFiles_of_not_removes hquiet hnever).symm.trans hgone)
    · rintro ⟨turn, hturn, hremoves⟩
      obtain ⟨-, node, hnode, -⟩ := Turn.files_after_of_removes hquiet hremoves
      exact ⟨node?_ne_none_of_turn hquiet hturn (by simp [hnode]),
        node?_loadFiles_of_removes hquiet hturn hremoves⟩
  refine ⟨map_file_turns_initial world files, hremoved, ?_, ?_⟩
  · intro place hkept
    refine node?_loadFiles_of_not_removes hquiet fun turn hturn hremoves => ?_
    exact hkept ((hremoved place).mpr ⟨turn, hturn, hremoves⟩)
  · intro started finished report hreport
    obtain ⟨hthrough, rfl⟩ := Sweep.report_eq_ok_iff.mp hreport
    refine ⟨map_file_turns_of_stopped_eq_none hthrough, ?_⟩
    rw [entries_loadFiles, List.forall₂_map_right_iff, List.forall₂_same]
    exact fun turn _ => ⟨rfl, turn.isDeleted_outcome_iff⟩

namespace Sample

/-- The directory with a fourth source file, which may not be removed. -/
def guardedFiles : FileSystem :=
  { files.put (place 0x65) (table [0x37, 0x0A]) with
    forbidden := [((.remove, place 0x65), .permissionDenied)] }

def guardedSources : List SourceFile :=
  sources ++ [SourceFile.ofPath (Path.join directory (name 0x65))]

end Sample

/-- Of the four files of the sample directory the first is deleted.  The second cannot be read, the
sink refuses the third, and the fourth is loaded, but may not be removed. -/
theorem removed_iff_turn_removes_sample :
    let world : World Wavering := ⟨{ refusals := [false, true] }, Sample.guardedFiles⟩
    let ran := turns Wavering.sink {} world Sample.guardedSources
    Wavering.sink.Quiet ∧ ran.length = 4 ∧
      (∃ turn ∈ ran, turn.Removes Wavering.sink {} (Sample.place 0x61)) ∧
      (¬ ∃ turn ∈ ran, turn.Removes Wavering.sink {} (Sample.place 0x62)) ∧
      (¬ ∃ turn ∈ ran, turn.Removes Wavering.sink {} (Sample.place 0x63)) ∧
      (¬ ∃ turn ∈ ran, turn.Removes Wavering.sink {} (Sample.place 0x65)) ∧
      Wavering.kept (loadFiles Wavering.sink {} world Sample.guardedSources).2.sink ≠ 0 := by
  intro world ran
  have hremoved := (removed_iff_turn_removes Wavering.quiet_sink {} world Sample.guardedSources).2.1
  refine ⟨Wavering.quiet_sink, by decide +kernel, (hremoved _).mp ?_, (hremoved _).not.mp ?_,
    (hremoved _).not.mp ?_, (hremoved _).not.mp ?_, by decide +kernel⟩
  · exact ⟨by decide +kernel, by decide +kernel⟩
  · exact fun hgone => absurd hgone.2 (by decide +kernel)
  · exact fun hgone => absurd hgone.2 (by decide +kernel)
  · exact fun hgone => absurd hgone.2 (by decide +kernel)

end HourlyIngest
