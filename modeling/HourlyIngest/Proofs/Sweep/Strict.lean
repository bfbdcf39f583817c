import HourlyIngest.Proofs.Sweep.Turn

/-!
# A strict sweep is the beginning of a tolerant one

A sweep that stops at its first failure and one that goes on are two loops with an ending of their
own each, but they treat every single file alike (`Turn.result_strict`).  So the strict sweep has
the turns of the tolerant one up to the first failure and including it (`loadFiles_of_first`), and
all of them if there is no failure (`loadFiles_of_all_loaded`).  What it shows, what it asks of the
sink, and the world that it leaves are then those of the tolerant sweep right after that turn.
-/

namespace HourlyIngest

variable {σ : Type} {sink : Sink σ} {delete : Bool} {world : World σ} {files : List SourceFile}
  {turn : Turn σ}

/-! ## A single turn -/

/-- Whether a sweep is to stop has no influence on what the loading of a file comes to. -/
theorem Turn.result_strict (turn : Turn σ) :
    turn.result sink ⟨delete, true⟩ = turn.result sink ⟨delete, false⟩ := rfl

theorem Turn.stop?_of_ok {options : SweepOptions} {outcome : Outcome}
    (hresult : turn.result sink options = .ok outcome) : turn.stop? sink options = none := by
  rw [Turn.stop?, hresult]

theorem Turn.stop?_of_error {options : SweepOptions} (hfast : options.failFast = true)
    {failure : Failure} (hresult : turn.result sink options = .error failure) :
    turn.stop? sink options = some failure := by
  rw [Turn.stop?, hresult]
  exact if_pos hfast

/-- A turn is recorded as a failure exactly if it was one, with the text of the failure. -/
theorem Turn.outcome_eq_failed_iff {options : SweepOptions} {error : String} :
    turn.outcome sink options = .failed error ↔
      ∃ failure, turn.result sink options = .error failure ∧ failure.message = error := by
  have hending := turn.ending sink options
  unfold Turn.outcome
  generalize turn.result sink options = result at hending ⊢
  generalize turn.after sink options = after at hending
  cases hending <;> simp

theorem Turn.isFailed_outcome_eq_false_iff {options : SweepOptions} :
    (turn.outcome sink options).isFailed = false ↔
      ∃ outcome, turn.result sink options = .ok outcome := by
  have hending := turn.ending sink options
  unfold Turn.outcome
  generalize turn.result sink options = result at hending ⊢
  generalize turn.after sink options = after at hending
  cases hending <;> simp [Outcome.isFailed]

/-! ## Whole sweeps -/

/-- Without a failure there is nothing to stop at. -/
theorem loadFiles_of_all_loaded
    (hloaded : ∀ turn ∈ turns sink ⟨delete, false⟩ world files,
      ∃ outcome, turn.result sink ⟨delete, false⟩ = .ok outcome) :
    loadFiles sink ⟨delete, true⟩ world files = loadFiles sink ⟨delete, false⟩ world files ∧
      turns sink ⟨delete, true⟩ world files = turns sink ⟨delete, false⟩ world files := by
  induction files generalizing world with
  | nil => exact ⟨rfl, rfl⟩
  | cons file rest ih =>
      have htolerant : Turn.stop? sink ⟨delete, false⟩ ⟨file, world⟩ = none :=
        Turn.stop?_eq_none rfl _
      rw [turns_cons_of_go htolerant, List.forall_mem_cons] at hloaded
      obtain ⟨⟨outcome, hresult⟩, hrest⟩ := hloaded
      have hstrict : Turn.stop? sink ⟨delete, true⟩ ⟨file, world⟩ = none :=
        Turn.stop?_of_ok ((Turn.result_strict _).trans hresult)
      obtain ⟨hfiles, hturns⟩ := ih hrest
      rw [loadFiles_cons_of_go hstrict, loadFiles_cons_of_go htolerant, turns_cons_of_go hstrict,
        turns_cons_of_go htolerant]
      -- the world behind the first turn is the same one
      have hafter : Turn.after sink ⟨delete, true⟩ ⟨file, world⟩ =
          Turn.after sink ⟨delete, false⟩ ⟨file, world⟩ := rfl
      rw [hafter, hfiles, hturns]
      exact ⟨rfl, rfl⟩

/-- The first failure is the last turn, and what it has left is the end. -/
theorem loadFiles_of_first {i : Nat} {failure : Failure}
    (hturn : (turns sink ⟨delete, false⟩ world files)[i]? = some turn)
    (hfailure : turn.result sink ⟨delete, false⟩ = .error failure)
    (hearlier : ∀ earlier ∈ (turns sink ⟨delete, false⟩ world files).take i,
      ∃ outcome, earlier.result sink ⟨delete, false⟩ = .ok outcome) :
    loadFiles sink ⟨delete, true⟩ world files =
        ({ entries := (loadFiles sink ⟨delete, false⟩ world files).1.entries.take (i + 1)
           lines := (loadFiles sink ⟨delete, false⟩ world files).1.lines.take (i + 1)
           stopped := some failure }, turn.after sink ⟨delete, false⟩) ∧
      turns sink ⟨delete, true⟩ world files =
        (turns sink ⟨delete, false⟩ world files).take (i + 1) := by
  induction files generalizing world i with
  | nil => simp [turns] at hturn
  | cons file rest ih =>
      have htolerant : Turn.stop? sink ⟨delete, false⟩ ⟨file, world⟩ = none :=
        Turn.stop?_eq_none rfl _
      rw [turns_cons_of_go htolerant] at hturn hearlier
      rw [loadFiles_cons_of_go htolerant, turns_cons_of_go htolerant]
      cases i with
      | zero =>
          obtain rfl : ⟨file, world⟩ = turn := Option.some.inj hturn
          have hstrict : Turn.stop? sink ⟨delete, true⟩ ⟨file, world⟩ = some failure :=
            Turn.stop?_of_error rfl hfailure
          rw [loadFiles_cons_of_stop hstrict, turns_cons_of_stop hstrict]
          exact ⟨rfl, rfl⟩
      | succ i =>
          rw [List.take_succ_cons, List.forall_mem_cons] at hearlier
          obtain ⟨⟨outcome, hresult⟩, hlater⟩ := hearlier
          have hstrict : Turn.stop? sink ⟨delete, true⟩ ⟨file, world⟩ = none :=
            Turn.stop?_of_ok ((Turn.result_strict _).trans hresult)
          obtain ⟨hfiles, hturns⟩ := ih hturn hlater
          have hafter : Turn.after sink ⟨delete, true⟩ ⟨file, world⟩ =
              Turn.after sink ⟨delete, false⟩ ⟨file, world⟩ := rfl
          rw [loadFiles_cons_of_go hstrict, turns_cons_of_go hstrict, hafter, hfiles, hturns]
          exact ⟨rfl, rfl⟩

/-- **Stopping at failures cuts a sweep short and changes nothing else.**  The same files are swept
twice from the same state, going on after failures and stopping at them, with any sink.  If the
first sweep records no failure, both give the same report, lines, calls of the sink, and world.
Otherwise the second one fails with the failure that the first one has recorded before any other;
it has the turns up to that one, so that no later file is read, handed over or removed; and its
lines, its calls and the world that it leaves are those that the first sweep has had by then. -/
theorem strict_is_beginning_of_tolerant (sink : Sink σ) (delete : Bool) (world : World σ)
    (files : List SourceFile) (started finished : TimeStamp) :
    let tolerant := loadFiles sink ⟨delete, false⟩ world files
    let strict := loadFiles sink ⟨delete, true⟩ world files
    let ran := turns sink ⟨delete, false⟩ world files
    let ranStrictly := turns sink ⟨delete, true⟩ world files
    ∃ report, tolerant.1.report started finished = .ok report ∧
      ((∀ entry ∈ report.entries, entry.outcome.isFailed = false) →
        strict.1.report started finished = .ok report ∧ strict.1.lines = tolerant.1.lines ∧
          offers sink ranStrictly = offers sink ran ∧ strict.2 = tolerant.2) ∧
      ∀ i name error, report.entries[i]? = some ⟨name, .failed error⟩ →
        (∀ earlier ∈ report.entries.take i, earlier.outcome.isFailed = false) →
          ∃ turn failure, ran[i]? = some turn ∧
            strict.1.report started finished = .error failure ∧ failure.message = error ∧
              strict.1.lines = tolerant.1.lines.take (i + 1) ∧
                ranStrictly = ran.take (i + 1) ∧
                  offers sink ranStrictly = offers sink (ran.take (i + 1)) ∧
                    strict.2 = turn.after sink ⟨delete, false⟩ := by
  intro tolerant strict ran ranStrictly
  have hthrough : tolerant.1.Through := through_loadFiles rfl world files
  have hentries : tolerant.1.entries = ran.map (Turn.entry sink ⟨delete, false⟩) :=
    entries_loadFiles world files
  refine ⟨_, Sweep.report_eq_ok_iff.mpr ⟨hthrough.unstopped, rfl⟩, ?_, ?_⟩
  · intro hnone
    simp only [hentries, List.forall_mem_map] at hnone
    have hloaded : ∀ turn ∈ ran, ∃ outcome, turn.result sink ⟨delete, false⟩ = .ok outcome :=
      fun turn hturn => Turn.isFailed_outcome_eq_false_iff.mp (hnone turn hturn)
    obtain ⟨hfiles, hturns⟩ := loadFiles_of_all_loaded hloaded
    have hsweep : strict = tolerant := hfiles
    refine ⟨?_, by rw [hsweep], congrArg (offers sink) hturns, by rw [hsweep]⟩
    rw [hsweep]
    exact Sweep.report_eq_ok_iff.mpr ⟨hthrough.unstopped, rfl⟩
  · intro i name error hentry hearlier
    simp only [hentries, List.getElem?_map, Option.map_eq_some_iff] at hentry
    obtain ⟨turn, hturn, hfailed⟩ := hentry
    obtain ⟨failure, hfailure, hmessage⟩ :=
      Turn.outcome_eq_failed_iff.mp (congrArg Entry.outcome hfailed)
    simp only [hentries, ← List.map_take, List.forall_mem_map] at hearlier
    obtain ⟨hfiles, hturns⟩ := loadFiles_of_first hturn hfailure
      fun earlier hmem => Turn.isFailed_outcome_eq_false_iff.mp (hearlier earlier hmem)
    have hsweep : strict = _ := hfiles
    refine ⟨turn, failure, hturn, ?_, hmessage, ?_, hturns, congrArg (offers sink) hturns, ?_⟩
    · rw [hsweep]
      rfl
    · rw [hsweep]
    · rw [hsweep]

end HourlyIngest
