import HourlyIngest.Proofs.Sweep.Contract
import HourlyIngest.Proofs.Sweep.Turn
import Mathlib

/-!
# Rows kept and rows reported

The figure of rows in a report is added up from the outcomes of the files, while the rows
themselves are with the sink.  A sink that is careful with rows (`Sink.Careful`) gains in a turn the
rows that it has taken (`Turn.taken`).  The outcome counts the same rows, except in one case: if the
file was to be removed afterwards and could not be, it is recorded as failed, and its rows stand in
no figure (`Turn.stranded`).  So the figure is right exactly if no such file had any rows
(`gained_eq_rows_add_stranded`).
-/

namespace HourlyIngest

variable {σ : Type}

section Load

variable (sink : Sink σ) (options : SweepOptions)

/-- The rows that the sink has taken in a turn. -/
def Turn.taken (turn : Turn σ) : List Observation :=
  match Contents.ofPath turn.before.files turn.file.path with
  | .error _ => []
  | .ok contents =>
      match (sink.insert turn.before turn.file.name contents.rows).1 with
      | .error _ => []
      | .ok _ => contents.rows

/-- The rows that the sink has taken in a turn which is recorded as a failure. -/
def Turn.stranded (turn : Turn σ) : List Observation :=
  if (turn.outcome sink options).isFailed then turn.taken sink else []

/-- The rows of a file that was to be removed and could not be. -/
structure Turn.Strands (turn : Turn σ) (rows : List Observation) : Prop where
  wanted : options.deleteAfterLoad = true
  stuck : ∃ contents after fault,
    Contents.ofPath turn.before.files turn.file.path = .ok contents ∧ contents.rows = rows ∧
      sink.insert turn.before turn.file.name contents.rows = (.ok rows.length, after) ∧
        after.files.remove turn.file.path = .error fault ∧
          turn.outcome sink options = .failed (Failure.io fault).message

variable {sink options} {kept : σ → Multiset Observation} {turn : Turn σ}

/-! ## One turn -/

/-- The sink gains the rows that it has taken. -/
theorem Turn.kept_after (hcareful : sink.Careful kept) (turn : Turn σ) :
    kept (turn.after sink options).sink =
      kept turn.before.sink + (turn.taken sink : Multiset _) := by
  have hending := turn.ending sink options
  generalize turn.result sink options = result at hending
  generalize turn.after sink options = after at hending ⊢
  unfold Turn.taken
  cases hending with
  | unreadable hread => simp [hread]
  | refused hread hinsert => simp [hread, hinsert, hcareful.refuses hinsert]
  | miscounted hread hinsert hcount => exact absurd (hcareful.accepts hinsert).1 hcount
  | stuck hread hinsert | deleted hread hinsert | kept hread hinsert =>
      simp [hread, hinsert, (hcareful.accepts hinsert).2]

/-- The rows that were taken are those that the outcome counts, together with the stranded ones. -/
theorem Turn.length_taken (turn : Turn σ) :
    (turn.taken sink).length =
      (turn.outcome sink options).rowsLoaded + (turn.stranded sink options).length := by
  have hending := turn.ending sink options
  unfold Turn.stranded Turn.outcome
  generalize turn.result sink options = result at hending ⊢
  generalize turn.after sink options = after at hending
  cases hending with
  | unreadable | refused | miscounted | stuck => simp [Outcome.isFailed, Outcome.rowsLoaded]
  | deleted hread hinsert | kept hread hinsert =>
      simp [Outcome.isFailed, Outcome.rowsLoaded, Turn.taken, hread, hinsert]

/-- Rows are stranded only where a removal has failed. -/
theorem Turn.strands_stranded (hcareful : sink.Careful kept)
    (hsome : turn.stranded sink options ≠ []) :
    turn.Strands sink options (turn.stranded sink options) := by
  have hfailed : (turn.outcome sink options).isFailed = true := by
    by_contra hloaded
    exact hsome (if_neg hloaded)
  have htaken : turn.stranded sink options = turn.taken sink := if_pos hfailed
  rw [htaken] at hsome ⊢
  have hending := turn.ending sink options
  unfold Turn.outcome at hfailed
  generalize hresult : turn.result sink options = result at hending hfailed
  generalize turn.after sink options = after at hending
  cases hending with
  | unreadable hread => exact absurd (by rw [Turn.taken, hread]) hsome
  | refused hread hinsert => exact absurd (by simp only [Turn.taken, hread, hinsert]) hsome
  | miscounted hread hinsert hcount => exact absurd (hcareful.accepts hinsert).1 hcount
  | deleted | kept => exact absurd hfailed Bool.false_ne_true
  | stuck hread hinsert hwanted hremove =>
      refine ⟨hwanted, _, _, _, hread, ?_, ?_, hremove, by rw [Turn.outcome, hresult]⟩
      all_goals simp only [Turn.taken, hread, hinsert]

/-! ## Whole sweeps -/

/-- Over a sweep the sink gains what it has taken in the turns. -/
theorem kept_loadFiles (hcareful : sink.Careful kept) (world : World σ) (files : List SourceFile) :
    kept (loadFiles sink options world files).2.sink = kept world.sink +
      (((turns sink options world files).flatMap (Turn.taken sink) : List _) : Multiset _) := by
  induction files generalizing world with
  | nil => exact (add_zero (kept world.sink)).symm
  | cons file rest ih =>
      have hfirst : kept (Turn.after sink options ⟨file, world⟩).sink =
          kept world.sink + (Turn.taken sink ⟨file, world⟩ : Multiset Observation) :=
        Turn.kept_after hcareful ⟨file, world⟩
      cases hstop : Turn.stop? sink options ⟨file, world⟩ with
      | some failure =>
          rw [loadFiles_cons_of_stop hstop, turns_cons_of_stop hstop, List.flatMap_singleton]
          exact hfirst
      | none =>
          rw [loadFiles_cons_of_go hstop, turns_cons_of_go hstop, List.flatMap_cons, ih, hfirst,
            add_assoc, Multiset.coe_add]

/-- The figure of rows in a report is the sum over the entries. -/
theorem Report.rows_eq_sum (report : Report) :
    report.rows = (report.entries.map fun entry => entry.outcome.rowsLoaded).sum := by
  unfold Report.rows
  induction report.entries with
  | nil => rfl
  | cons entry rest ih => rw [List.foldr_cons, List.map_cons, List.sum_cons, ih]

/-- **The rows that a sink has kept are those in the report and those of files that could not be
removed.**  The sink is careful with rows, but during a call anything may happen to the files.  The
figure in the report is the number of rows gained exactly if no file with rows was left behind. -/
theorem gained_eq_rows_add_stranded (hcareful : sink.Careful kept) {world : World σ}
    {files : List SourceFile} {started finished : TimeStamp} {report : Report}
    (hreport : (loadFiles sink options world files).1.report started finished = .ok report) :
    let ran := turns sink options world files
    ∃ gained, kept (loadFiles sink options world files).2.sink = kept world.sink + gained ∧
      gained.card = report.rows + (ran.flatMap (Turn.stranded sink options)).length ∧
      (gained.card = report.rows ↔ ∀ turn ∈ ran, turn.stranded sink options = []) ∧
      ∀ turn ∈ ran, turn.stranded sink options ≠ [] →
        turn.Strands sink options (turn.stranded sink options) := by
  intro ran
  obtain ⟨-, hrecord⟩ := Sweep.report_eq_ok_iff.mp hreport
  have hrows : report.rows = (ran.map fun turn => (turn.outcome sink options).rowsLoaded).sum := by
    rw [Report.rows_eq_sum, hrecord, entries_loadFiles, List.map_map]
    rfl
  have hcard : (ran.flatMap (Turn.taken sink)).length =
      report.rows + (ran.flatMap (Turn.stranded sink options)).length := by
    rw [List.length_flatMap, List.length_flatMap, hrows, ← List.sum_map_add]
    congr 1
    exact List.map_congr_left fun turn _ => turn.length_taken
  refine ⟨_, kept_loadFiles hcareful world files, hcard, ?_, ?_⟩
  · rw [Multiset.coe_card, hcard, Nat.add_eq_left, List.length_eq_zero_iff,
      List.flatMap_eq_nil_iff]
  · exact fun turn _ hsome => turn.strands_stranded hcareful hsome

end Load

/-! ## A file that vanishes -/

/-- A sink that keeps all rows, while somebody else removes the file at a path. -/
def snatchingSink (path : Path) : Sink (List Observation) where
  insert world _ rows :=
    (.ok rows.length, ⟨world.sink ++ rows, (world.files.remove path).toOption.getD world.files⟩)

theorem careful_snatchingSink (path : Path) :
    (snatchingSink path).Careful fun rows => (rows : Multiset Observation) where
  refuses hinsert := by simp [snatchingSink] at hinsert
  accepts hinsert := by
    simp only [snatchingSink, Prod.mk.injEq, Except.ok.injEq] at hinsert
    obtain ⟨rfl, rfl⟩ := hinsert
    exact ⟨rfl, (Multiset.coe_add _ _).symm⟩

namespace Sample

/-- The first source file of the directory, which has two rows. -/
def vanishing : SourceFile := SourceFile.ofPath (Path.join directory (name 0x61))

/-- The sink during whose calls this file vanishes. -/
def snatching : Sink (List Observation) := snatchingSink vanishing.path

/-- Before a load of the directory. -/
def fresh : World (List Observation) := ⟨[], files⟩

end Sample

open Sample in
/-- The sample directory is loaded while its first file is taken away.  Of the three rows that were
kept, the report has one. -/
theorem gained_eq_rows_add_stranded_sample :
    (snatching.Careful fun rows => (rows : Multiset Observation)) ∧
      ∃ report, (loadFiles snatching {} fresh sources).1.report epoch epoch = .ok report ∧
        ∃ gained, ((loadFiles snatching {} fresh sources).2.sink : Multiset Observation) = gained ∧
          gained.card = report.rows +
            ((turns snatching {} fresh sources).flatMap (Turn.stranded snatching {})).length ∧
          gained.card = 3 ∧ report.rows = 1 := by
  have hcareful : snatching.Careful fun rows => (rows : Multiset Observation) :=
    careful_snatchingSink vanishing.path
  have hthrough : (loadFiles snatching {} fresh sources).1.stopped = none := by decide +kernel
  have hrows : Report.rows ⟨epoch, some epoch, (loadFiles snatching {} fresh sources).1.entries⟩ =
      1 := by decide +kernel
  have hkept : (loadFiles snatching {} fresh sources).2.sink.length = 3 := by decide +kernel
  have hreport := Sweep.report_eq_ok_iff.mpr
    ⟨hthrough, Eq.refl (Report.mk epoch (some epoch) _)⟩
  obtain ⟨gained, hgained, hcard, -⟩ := gained_eq_rows_add_stranded hcareful hreport
  have hall := hgained.trans (zero_add gained)
  have hthree : gained.card = 3 := (congrArg Multiset.card hall).symm.trans hkept
  exact ⟨hcareful, _, hreport, gained, hall, hcard, hthree, hrows⟩

open Sample in
/-- A file with two rows is loaded and vanishes before it can be removed.  The report says that no
row was inserted, and the sink has kept both. -/
theorem rows_of_vanished_file :
    (snatching.Careful fun rows => (rows : Multiset Observation)) ∧
      ∃ report, (loadFiles snatching {} fresh [vanishing]).1.report epoch epoch = .ok report ∧
        report.rows = 0 ∧ (loadFiles snatching {} fresh [vanishing]).2.sink.length = 2 := by
  have hthrough : (loadFiles snatching {} fresh [vanishing]).1.stopped = none := by decide +kernel
  have hrows : Report.rows
      ⟨epoch, some epoch, (loadFiles snatching {} fresh [vanishing]).1.entries⟩ = 0 := by
    decide +kernel
  have hkept : (loadFiles snatching {} fresh [vanishing]).2.sink.length = 2 := by decide +kernel
  exact ⟨careful_snatchingSink _, _, Sweep.report_eq_ok_iff.mpr ⟨hthrough, rfl⟩, hrows, hkept⟩

end HourlyIngest
