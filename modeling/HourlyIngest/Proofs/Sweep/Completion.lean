import HourlyIngest.Proofs.FileSystem.Variant
import HourlyIngest.Proofs.Sweep.Deletion

/-!
# Sweeps that load everything

A sweep has loaded all files if none of its turns has failed (`allLoaded_iff`).  Otherwise it is
stopped by its first failure, if it was to stop, and has no turn behind that one
(`exists_first_failure`).  A sweep only takes things away (`thinned_of_mem_turns`), so where all
files were loaded and were not to stay, the place that each of them had at the beginning is empty
in the end (`empty_of_all_loaded`).
-/

namespace HourlyIngest

variable {σ : Type} {sink : Sink σ} {options : SweepOptions} {world : World σ}
  {files : List SourceFile} {turn : Turn σ} {initial : FileSystem}

theorem Contents.ofPath_of_thinned {now : FileSystem} (hthinned : initial.Thinned now) {path : Path}
    {contents : Contents} (hread : Contents.ofPath now path = .ok contents) :
    Contents.ofPath initial path = .ok contents := by
  unfold Contents.ofPath at hread ⊢
  cases hcontent : now.read path with
  | error fault => simp [hcontent] at hread
  | ok content =>
      rw [hcontent] at hread
      rw [hthinned.read_eq hcontent]
      exact hread

/-! ## Turns that load their file -/

/-- The turn has loaded its file. -/
def Turn.Loads (sink : Sink σ) (options : SweepOptions) (turn : Turn σ) : Prop :=
  ∃ outcome, turn.result sink options = .ok outcome

theorem Turn.not_loads_iff :
    ¬ turn.Loads sink options ↔ ∃ failure, turn.result sink options = .error failure := by
  unfold Turn.Loads
  cases turn.result sink options <;> simp

/-- What a turn has done that loads its file. -/
theorem Turn.Loads.exists_contents (hloads : turn.Loads sink options) :
    ∃ contents after, Contents.ofPath turn.before.files turn.file.path = .ok contents ∧
      sink.insert turn.before turn.file.name contents.rows =
        (.ok contents.rows.length, after) ∧
        (turn.after sink options).sink = after.sink ∧
          turn.outcome sink options = .loaded contents.rows.length options.deleteAfterLoad := by
  obtain ⟨outcome, hresult⟩ := hloads
  have hending := turn.ending sink options
  unfold Turn.outcome
  rw [hresult] at hending ⊢
  generalize turn.after sink options = after at hending ⊢
  cases hending with
  | deleted hread hinsert hwanted hremove =>
      exact ⟨_, _, hread, hinsert, rfl, by rw [hwanted]⟩
  | kept hread hinsert hwanted =>
      exact ⟨_, _, hread, hinsert, rfl, by rw [hwanted]⟩

theorem Turn.loads_iff_isFailed :
    turn.Loads sink options ↔ (turn.outcome sink options).isFailed = false := by
  constructor
  · intro hloads
    obtain ⟨contents, after, -, -, -, houtcome⟩ := hloads.exists_contents
    rw [houtcome]
    rfl
  · intro hfailed
    by_contra hnot
    obtain ⟨failure, hfailure⟩ := Turn.not_loads_iff.mp hnot
    simp [Turn.outcome, hfailure, Outcome.isFailed] at hfailed

instance (turn : Turn σ) : Decidable (turn.Loads sink options) :=
  decidable_of_iff _ Turn.loads_iff_isFailed.symm

theorem Turn.Loads.stop?_eq_none (hloads : turn.Loads sink options) :
    turn.stop? sink options = none := by
  obtain ⟨outcome, hresult⟩ := hloads
  rw [Turn.stop?, hresult]

/-! ## Sweeps -/

/-- Every file has its entry, and was loaded. -/
def AllLoaded (files : List SourceFile) (entries : List Entry) : Prop :=
  List.Forall₂ (fun file entry => entry.name = file.name ∧
    ∃ rows deleted, entry.outcome = .loaded rows deleted) files entries

theorem AllLoaded.isFailed {entries : List Entry} (hloaded : AllLoaded files entries) :
    ∀ entry ∈ entries, entry.outcome.isFailed = false := by
  induction hloaded with
  | nil => simp
  | cons hfirst _ ih =>
      obtain ⟨-, rows, deleted, houtcome⟩ := hfirst
      exact List.forall_mem_cons.mpr ⟨by rw [houtcome]; rfl, ih⟩

/-- Nothing stops a sweep whose turns all load their files. -/
theorem stopped_eq_none_of_loads
    (hall : ∀ turn ∈ turns sink options world files, turn.Loads sink options) :
    (loadFiles sink options world files).1.stopped = none :=
  stopped_eq_none_of_go fun turn hturn => (hall turn hturn).stop?_eq_none

/-- All files are recorded as loaded exactly if no turn has failed. -/
theorem allLoaded_iff :
    AllLoaded files (loadFiles sink options world files).1.entries ↔
      ∀ turn ∈ turns sink options world files, turn.Loads sink options := by
  rw [AllLoaded, entries_loadFiles]
  constructor
  · intro hloaded turn hturn
    exact Turn.loads_iff_isFailed.mpr
      (AllLoaded.isFailed hloaded (turn.entry sink options) (List.mem_map_of_mem hturn))
  · intro hall
    have hfiles := map_file_turns_of_stopped_eq_none (stopped_eq_none_of_loads hall)
    conv => arg 2; rw [← hfiles]
    rw [List.forall₂_map_left_iff, List.forall₂_map_right_iff, List.forall₂_same]
    intro turn hturn
    obtain ⟨contents, after, -, -, -, houtcome⟩ := (hall turn hturn).exists_contents
    exact ⟨rfl, _, _, houtcome⟩

/-- A sweep that is to stop at failures and has met one was stopped by it in its last turn, and all
turns before it have loaded their files. -/
theorem exists_first_failure (hfast : options.failFast = true)
    (hsome : ∃ turn ∈ turns sink options world files, ¬ turn.Loads sink options) :
    ∃ earlier last failure, turns sink options world files = earlier ++ [last] ∧
      (∀ turn ∈ earlier, turn.Loads sink options) ∧
        last.result sink options = .error failure ∧
          (loadFiles sink options world files).1.stopped = some failure := by
  induction files generalizing world with
  | nil => simp [turns] at hsome
  | cons file rest ih =>
      cases hresult : Turn.result sink options ⟨file, world⟩ with
      | error failure =>
          have hstop : Turn.stop? sink options ⟨file, world⟩ = some failure := by
            rw [Turn.stop?, hresult]
            exact if_pos hfast
          rw [turns_cons_of_stop hstop, loadFiles_cons_of_stop hstop]
          exact ⟨[], _, failure, rfl, by simp, hresult, rfl⟩
      | ok outcome =>
          have hloads : Turn.Loads sink options ⟨file, world⟩ := ⟨outcome, hresult⟩
          have hgo := hloads.stop?_eq_none
          rw [turns_cons_of_go hgo] at hsome ⊢
          rw [loadFiles_cons_of_go hgo]
          obtain ⟨turn, hturn, hfails⟩ := hsome
          rcases List.mem_cons.mp hturn with rfl | hlater
          · exact absurd hloads hfails
          · obtain ⟨earlier, last, failure, hturns, hearlier, hlast, hstopped⟩ :=
              ih ⟨turn, hlater, hfails⟩
            refine ⟨_ :: earlier, last, failure, by rw [hturns]; rfl,
              List.forall_mem_cons.mpr ⟨hloads, hearlier⟩, hlast, hstopped⟩

/-! ## Only what was there is taken away -/

theorem thinned_after (hquiet : sink.Quiet) (options : SweepOptions) (turn : Turn σ)
    (hthinned : initial.Thinned turn.before.files) :
    initial.Thinned (turn.after sink options).files := by
  obtain hsame | ⟨place, hremoves⟩ : (turn.after sink options).files = turn.before.files ∨
      ∃ place, turn.Removes sink options place := turn.files_after hquiet
  · rwa [hsame]
  · rw [(Turn.files_after_of_removes hquiet hremoves).1]
    exact hthinned.erase place

theorem thinned_of_mem_turns (hquiet : sink.Quiet) (hthinned : initial.Thinned world.files)
    (hturn : turn ∈ turns sink options world files) : initial.Thinned turn.before.files := by
  induction files generalizing world with
  | nil => simp [turns] at hturn
  | cons file rest ih =>
      rcases mem_turns_cons.mp hturn with rfl | ⟨-, hlater⟩
      · exact hthinned
      · exact ih (thinned_after hquiet options ⟨file, world⟩ hthinned) hlater

/-- Where all files were loaded and were not to stay, the place of each of them is empty. -/
theorem empty_of_all_loaded (hquiet : sink.Quiet) (hdelete : options.deleteAfterLoad = true)
    (hall : ∀ turn ∈ turns sink options world files, turn.Loads sink options) {file : SourceFile}
    (hfile : file ∈ files) :
    ∃ place, world.files.locate .entry file.path = .ok place ∧
      (loadFiles sink options world files).2.files.node? place = none := by
  have hfiles := map_file_turns_of_stopped_eq_none (stopped_eq_none_of_loads hall)
  rw [← hfiles] at hfile
  obtain ⟨turn, hturn, rfl⟩ := List.mem_map.mp hfile
  obtain ⟨contents, -, -, -, -, houtcome⟩ := (hall turn hturn).exists_contents
  have hdeleted : (turn.outcome sink options).isDeleted = true := by
    rw [houtcome, Outcome.isDeleted, hdelete]
  obtain ⟨place, hremoves⟩ := turn.isDeleted_outcome_iff.mp hdeleted
  refine ⟨place, ?_, node?_loadFiles_of_removes hquiet hturn hremoves⟩
  -- the place was found in the middle of the sweep, which is where it was at the beginning
  obtain ⟨-, contents, after, left, -, hinsert, hlocate, -, -⟩ := hremoves
  rw [hquiet.files_eq hinsert] at hlocate
  exact (thinned_of_mem_turns hquiet (.refl _) hturn).locate_entry hlocate

end HourlyIngest
