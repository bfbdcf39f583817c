import HourlyIngest.Proofs.SourceFile.Scan
import HourlyIngest.Proofs.Sweep.Contract
import HourlyIngest.Proofs.Sweep.Turn
import Mathlib.Data.List.Forall2

/-!
# A check foretells a load

A check reads all files as they are at its beginning.  A load reads each file in its turn, when the
files before it may have gone.  But the files still to come are what they were (`Untouched`): a
listed file that can be read can be removed, and this changes no other one.  So a turn whose call is
accepted comes to what the check has found (`Untouched.turn`), and by induction on the list of files
this is true of every entry of the report (`forall₂_entries`).  That the lines count down the files
still to come is a property of each of the two sweeps alone (`Sweep.Through`).
-/

namespace HourlyIngest

variable {σ : Type}

/-! ## Checks -/

theorem entries_checkFiles (fs : FileSystem) (files : List SourceFile) :
    (checkFiles fs files).entries = files.map fun file => ⟨file.name, checkFile fs file⟩ := by
  induction files with
  | nil => rfl
  | cons file rest ih => exact congrArg (⟨file.name, checkFile fs file⟩ :: ·) ih

theorem through_checkFiles (fs : FileSystem) (files : List SourceFile) :
    (checkFiles fs files).Through := by
  induction files with
  | nil => exact ⟨rfl, fun i => rfl⟩
  | cons file rest ih => exact ih.cons _ _ (by rw [entries_checkFiles, List.length_map])

/-! ## Files still to come -/

/-- In the midst of a sweep: the files still to come differ from each other, a scan would list them,
they read as they did when the sweep began, and can be removed if that is wanted. -/
structure Untouched (wanted : Bool) (directory : Path) (initial now : FileSystem)
    (rest : List SourceFile) : Prop where
  sound : now.Sound
  nodup : rest.Nodup
  listed : ∃ files, scan now directory = .ok files ∧ rest ⊆ files
  unchanged : ∀ file ∈ rest, Contents.ofPath now file.path = Contents.ofPath initial file.path
  removable : wanted = true → ∀ file ∈ rest, ∀ contents,
    Contents.ofPath initial file.path = .ok contents → Removable now file

namespace Untouched

variable {wanted : Bool} {directory : Path} {initial now : FileSystem} {file : SourceFile}
  {rest : List SourceFile}

theorem start {files : List SourceFile} (hsound : initial.Sound)
    (hscan : scan initial directory = .ok files)
    (hclearable : wanted = true → Clearable initial directory) :
    Untouched wanted directory initial initial files where
  sound := hsound
  nodup := nodup_of_scan hsound hscan
  listed := ⟨files, hscan, List.Subset.refl _⟩
  unchanged := fun _ _ => rfl
  removable := fun hwanted => hclearable hwanted files hscan

/-- A file that has had its turn may be left where it is. -/
theorem leave (huntouched : Untouched wanted directory initial now (file :: rest)) :
    Untouched wanted directory initial now rest where
  sound := huntouched.sound
  nodup := (List.nodup_cons.mp huntouched.nodup).2
  listed := by
    obtain ⟨files, hscan, hsubset⟩ := huntouched.listed
    exact ⟨files, hscan, (List.cons_subset.mp hsubset).2⟩
  unchanged := (List.forall_mem_cons.mp huntouched.unchanged).2
  removable := fun hwanted => (List.forall_mem_cons.mp (huntouched.removable hwanted)).2

/-- When a file is removed in its turn, the files behind it do not change. -/
theorem remove (huntouched : Untouched wanted directory initial now (file :: rest))
    {after : FileSystem} (hremove : now.remove file.path = .ok after) :
    Untouched wanted directory initial after rest := by
  obtain ⟨listed, hscan, hsubset⟩ := huntouched.listed
  obtain ⟨hfile, hrest⟩ := List.cons_subset.mp hsubset
  obtain ⟨hnew, hnodup⟩ := List.nodup_cons.mp huntouched.nodup
  obtain ⟨hsound, left, hleft, hperm, hsame⟩ :=
    scan_of_remove huntouched.sound hscan hfile hremove
  have hne : ∀ other ∈ rest, other ≠ file := fun other hother heq => hnew (heq ▸ hother)
  refine ⟨hsound, hnodup, ⟨left, hleft, ?_⟩, ?_, ?_⟩
  · intro other hother
    rw [hperm.mem_iff, List.mem_filter]
    exact ⟨hrest hother, by simpa using hne other hother⟩
  · intro other hother
    rw [(hsame other (hrest hother) (hne other hother)).1]
    exact huntouched.unchanged other (List.mem_cons_of_mem _ hother)
  · intro hwanted other hother contents hread
    exact (hsame other (hrest hother) (hne other hother)).2.mpr
      (huntouched.removable hwanted other (List.mem_cons_of_mem _ hother) contents hread)

end Untouched

/-! ## One file -/

/-- What a check finds in a file, and what a load that has its way makes of the file. -/
inductive Outcome.Foretells : Outcome → Outcome → Prop
  | rows {rows discarded mismatches : Nat} {deleted : Bool} :
      Foretells (.checked rows discarded mismatches) (.loaded rows deleted)
  | failure {error : String} : Foretells (.failed error) (.failed error)

/-- The entries of a check and of a load for one file. -/
def Entry.Foretells (found done : Entry) : Prop :=
  found.name = done.name ∧ found.outcome.Foretells done.outcome

/-- If it comes to a call of the sink, the sink reports the number of rows that it was given, and
leaves the file system alone. -/
def Turn.Accepted (sink : Sink σ) (turn : Turn σ) : Prop :=
  ∀ contents, Contents.ofPath turn.before.files turn.file.path = .ok contents →
    ∃ after, sink.insert turn.before turn.file.name contents.rows =
      (.ok contents.rows.length, after) ∧ after.files = turn.before.files

section Load

variable {sink : Sink σ} {options : SweepOptions} {directory : Path} {initial : FileSystem}
  {file : SourceFile} {world : World σ}

theorem Turn.Accepted.answer_eq (haccepted : Turn.Accepted sink ⟨file, world⟩)
    {contents : Contents} {answer : Except Failure Nat} {after : World σ}
    (hread : Contents.ofPath world.files file.path = .ok contents)
    (hinsert : sink.insert world file.name contents.rows = (answer, after)) :
    answer = .ok contents.rows.length ∧ after.files = world.files := by
  obtain ⟨taken, htaken, hfiles⟩ := haccepted contents hread
  obtain ⟨rfl, rfl⟩ := Prod.mk.inj (hinsert.symm.trans htaken)
  exact ⟨rfl, hfiles⟩

/-- A turn comes to what was found in its file at the beginning, and touches no other file. -/
theorem Untouched.turn {rest : List SourceFile}
    (huntouched : Untouched options.deleteAfterLoad directory initial world.files (file :: rest))
    (haccepted : Turn.Accepted sink ⟨file, world⟩) :
    (checkFile initial file).Foretells (Turn.outcome sink options ⟨file, world⟩) ∧
      Untouched options.deleteAfterLoad directory initial
        (Turn.after sink options ⟨file, world⟩).files rest := by
  have hending := Turn.ending sink options ⟨file, world⟩
  have hsame := huntouched.unchanged file List.mem_cons_self
  unfold Turn.outcome
  rw [checkFile, ← hsame]
  generalize Turn.result sink options ⟨file, world⟩ = result at hending ⊢
  generalize Turn.after sink options ⟨file, world⟩ = after at hending ⊢
  cases hending with
  | unreadable hread =>
      rw [hread]
      exact ⟨.failure, huntouched.leave⟩
  | refused hread hinsert => cases (haccepted.answer_eq hread hinsert).1
  | miscounted hread hinsert hcount =>
      exact absurd (Except.ok.inj (haccepted.answer_eq hread hinsert).1) hcount
  | stuck hread hinsert hwanted hremove =>
      obtain ⟨left, hremoved⟩ := huntouched.removable hwanted file List.mem_cons_self _
        (hsame.symm.trans hread)
      rw [(haccepted.answer_eq hread hinsert).2, hremoved] at hremove
      cases hremove
  | deleted hread hinsert hwanted hremove =>
      rw [(haccepted.answer_eq hread hinsert).2] at hremove
      rw [hread]
      exact ⟨.rows, huntouched.remove hremove⟩
  | kept hread hinsert hwanted =>
      rw [hread, (haccepted.answer_eq hread hinsert).2]
      exact ⟨.rows, huntouched.leave⟩

/-- Entry by entry, a check of the files as they were foretells the rest of a load. -/
theorem forall₂_entries (hfast : options.failFast = false) {files : List SourceFile}
    (huntouched : Untouched options.deleteAfterLoad directory initial world.files files)
    (haccepted : ∀ turn ∈ turns sink options world files, turn.Accepted sink) :
    List.Forall₂ Entry.Foretells (checkFiles initial files).entries
      (loadFiles sink options world files).1.entries := by
  induction files generalizing world with
  | nil => exact .nil
  | cons file rest ih =>
      have hgo : Turn.stop? sink options ⟨file, world⟩ = none := Turn.stop?_eq_none hfast _
      rw [turns_cons_of_go hgo, List.forall_mem_cons] at haccepted
      obtain ⟨hforetells, hafter⟩ := huntouched.turn haccepted.1
      rw [loadFiles_cons_of_go hgo]
      exact .cons ⟨rfl, hforetells⟩ (ih hafter haccepted.2)

end Load

/-! ## A sink that accepts every call -/

namespace Wavering

variable {world : World Wavering} {turn : Turn Wavering} {options : SweepOptions}

theorem insert_of_refusals_eq_nil (hrefusals : world.sink.refusals = []) (file : String)
    (rows : List Observation) :
    sink.insert world file rows =
      (.ok rows.length, ⟨⟨[], world.sink.rows ++ rows⟩, world.files⟩) := by
  simp [sink, insert, hrefusals]

theorem refusals_after_eq_nil (hrefusals : turn.before.sink.refusals = []) :
    (turn.after sink options).sink.refusals = [] := by
  have hending := turn.ending sink options
  generalize turn.result sink options = result at hending
  generalize turn.after sink options = after at hending ⊢
  cases hending with
  | unreadable hread => exact hrefusals
  | refused hread hinsert => simp [insert_of_refusals_eq_nil hrefusals] at hinsert
  | _ hread hinsert =>
      rw [insert_of_refusals_eq_nil hrefusals] at hinsert
      cases hinsert
      rfl

/-- Once nothing is to be refused any more, all calls of a sweep are accepted. -/
theorem accepted_of_mem_turns (hrefusals : world.sink.refusals = []) {files : List SourceFile}
    (hturn : turn ∈ turns sink options world files) : turn.Accepted sink := by
  induction files generalizing world with
  | nil => simp [turns] at hturn
  | cons file rest ih =>
      rcases mem_turns_cons.mp hturn with rfl | ⟨-, hlater⟩
      · exact fun contents hread => ⟨_, insert_of_refusals_eq_nil hrefusals _ _, rfl⟩
      · exact ih (refusals_after_eq_nil hrefusals) hlater

end Wavering

/-! ## Reports -/

namespace Outcome.Foretells

variable {found done : Outcome}

theorem checked_iff_loaded (hforetells : found.Foretells done) (rows : Nat) :
    (∃ discarded mismatches, found = .checked rows discarded mismatches) ↔
      ∃ deleted, done = .loaded rows deleted := by
  cases hforetells <;> simp

theorem failed_iff_failed (hforetells : found.Foretells done) (error : String) :
    found = .failed error ↔ done = .failed error := by
  cases hforetells <;> simp

theorem isFailed_eq (hforetells : found.Foretells done) : found.isFailed = done.isFailed := by
  cases hforetells <;> rfl

end Outcome.Foretells

theorem countP_isFailed_eq {found done : List Entry}
    (hentries : List.Forall₂ Entry.Foretells found done) :
    (found.countP fun entry => entry.outcome.isFailed) =
      done.countP fun entry => entry.outcome.isFailed := by
  induction hentries with
  | nil => rfl
  | cons hentry _ ih => rw [List.countP_cons, List.countP_cons, ih, hentry.2.isFailed_eq]

/-- What a check shows and reports, beside what a load does: the same names in the same order; a
file checked with some number of rows is a file loaded with this number, and a failure is the same
failure; one report is complete if the other one is; and the lines of both count down alike. -/
structure Forecast (check load : Sweep) (found done : Report) : Prop where
  names : found.entries.map Entry.name = done.entries.map Entry.name
  outcomes : List.Forall₂ (fun before after =>
    (∀ rows, (∃ discarded mismatches, before.outcome = .checked rows discarded mismatches) ↔
      ∃ deleted, after.outcome = .loaded rows deleted) ∧
      ∀ error, before.outcome = .failed error ↔ after.outcome = .failed error)
    found.entries done.entries
  isComplete : found.isComplete = done.isComplete
  checkLines : ∀ i : Nat, check.lines[i]? = found.entries[i]?.map fun entry =>
    progressLine entry.name entry.outcome (found.entries.length - 1 - i)
  loadLines : ∀ i : Nat, load.lines[i]? = done.entries[i]?.map fun entry =>
    progressLine entry.name entry.outcome (found.entries.length - 1 - i)

/-- Entries that foretell each other make reports that do. -/
theorem Forecast.of_entries {check load : Sweep} (hcheck : check.Through) (hload : load.Through)
    (hentries : List.Forall₂ Entry.Foretells check.entries load.entries)
    {found done : Report} (hfound : found.entries = check.entries)
    (hdone : done.entries = load.entries) : Forecast check load found done where
  names := by
    rw [hfound, hdone, ← List.forall₂_eq_eq_eq, List.forall₂_map_left_iff,
      List.forall₂_map_right_iff]
    exact hentries.imp fun _ _ hentry => hentry.1
  outcomes := by
    rw [hfound, hdone]
    exact hentries.imp fun _ _ hentry =>
      ⟨hentry.2.checked_iff_loaded, hentry.2.failed_iff_failed⟩
  isComplete := by
    simp only [Report.isComplete, Report.failed, Report.count, hfound, hdone,
      countP_isFailed_eq hentries]
  checkLines := by
    rw [hfound]
    exact hcheck.lines
  loadLines := by
    rw [hfound, hdone, hentries.length_eq]
    exact hload.lines

/-- **A check foretells a load.**  A directory is checked, and it is loaded from the same state,
with removal or without, not stopping at failures; every call that the load makes is accepted, and
removals succeed if they are wanted.  If one of the two cannot be begun, the other one cannot
either, and for the same reason.  Otherwise both go through to a report, and the check has foretold
what the load has come to. -/
theorem check_foretells_load {sink : Sink σ} {options : SweepOptions}
    (hfast : options.failFast = false) {world : World σ} (hsound : world.files.Sound)
    {directory : Path}
    (hclearable : options.deleteAfterLoad = true → Clearable world.files directory)
    (haccepted : ∀ files, scan world.files directory = .ok files →
      ∀ turn ∈ turns sink options world files, turn.Accepted sink) :
    (∃ failure, checkDirectory world.files directory = .error failure ∧
      loadDirectory sink options world directory = .error failure) ∨
    ∃ check load after, checkDirectory world.files directory = .ok check ∧
      loadDirectory sink options world directory = .ok (load, after) ∧
        ∀ started finished started' finished', ∃ found done,
          check.report started finished = .ok found ∧
            load.report started' finished' = .ok done ∧ Forecast check load found done := by
  rw [checkDirectory, loadDirectory]
  cases hscan : scan world.files directory with
  | error failure => exact Or.inl ⟨failure, rfl, rfl⟩
  | ok files =>
      have hcheck := through_checkFiles world.files files
      have hload : (loadFiles sink options world files).1.Through :=
        through_loadFiles hfast world files
      have hentries := forall₂_entries hfast (.start hsound hscan hclearable) (haccepted files hscan)
      refine Or.inr ⟨_, _, _, rfl, rfl, fun started finished started' finished' => ?_⟩
      refine ⟨_, _, Sweep.report_eq_ok_iff.mpr ⟨hcheck.unstopped, rfl⟩,
        Sweep.report_eq_ok_iff.mpr ⟨hload.unstopped, rfl⟩, ?_⟩
      exact .of_entries hcheck hload hentries rfl rfl

/-- The sample directory is checked and loaded.  There are three files in it, and one of them cannot
be read. -/
theorem check_foretells_load_sample :
    let world : World Wavering := ⟨{}, Sample.files⟩
    world.files.Sound ∧ Clearable world.files Sample.directory ∧
      (∀ files, scan world.files Sample.directory = .ok files →
        ∀ turn ∈ turns Wavering.sink {} world files, turn.Accepted Wavering.sink) ∧
        ∃ check load after, checkDirectory world.files Sample.directory = .ok check ∧
          loadDirectory Wavering.sink {} world Sample.directory = .ok (load, after) ∧
            ∀ instant, ∃ found done, check.report instant instant = .ok found ∧
              load.report instant instant = .ok done ∧ Forecast check load found done ∧
                found.entries.length = 3 ∧ found.failed = 1 := by
  intro world
  have hsound : world.files.Sound := ⟨by decide, by decide⟩
  have hclearable : Clearable world.files Sample.directory :=
    clearable_of_forbids?_eq_none hsound (fun _ => rfl) _
  have haccepted : ∀ files, scan world.files Sample.directory = .ok files →
      ∀ turn ∈ turns Wavering.sink {} world files, turn.Accepted Wavering.sink :=
    fun files _ turn hturn => Wavering.accepted_of_mem_turns rfl hturn
  refine ⟨hsound, hclearable, haccepted, ?_⟩
  have hlookup : world.files.lookup .node Sample.directory =
      .ok ([Sample.directory], .directory) := by decide +kernel
  have hscan := scan_eq_ok_iff.mpr ⟨_, hlookup, rfl⟩
  have hperm := perm_of_scan hscan hlookup
  obtain ⟨failure, hcheck, -⟩ | ⟨check, load, after, hcheck, hload, hreports⟩ :=
    check_foretells_load rfl hsound (fun _ => hclearable) haccepted
  · rw [checkDirectory, hscan] at hcheck
    cases hcheck
  · refine ⟨check, load, after, hcheck, hload, fun instant => ?_⟩
    obtain ⟨found, done, hfound, hdone, hforecast⟩ := hreports instant instant instant instant
    rw [checkDirectory, hscan] at hcheck
    obtain rfl := Except.ok.inj hcheck
    obtain ⟨-, rfl⟩ := Sweep.report_eq_ok_iff.mp hfound
    refine ⟨_, done, hfound, hdone, hforecast, ?_, ?_⟩
    · rw [entries_checkFiles, List.length_map, hperm.length_eq]
      decide +kernel
    · rw [Report.failed, Report.count, entries_checkFiles, List.countP_map, hperm.countP_eq]
      decide +kernel

end HourlyIngest
