import HourlyIngest.Proofs.Sweep.Forecast

/-!
# The lines and the report of a sweep

A sweep shows a line for each file and records an entry for it.  The two are made in separate steps,
and the number in the line comes from a counter that starts at the number of files.  Here the two
are brought together: line by line they speak of the same outcome, the counter is taken down once
for each entry and stands at zero behind the last one (`Countdown`), and the figures of the report
add up to the number of files (`Sweep.Accounts`).  All of this holds for whatever a turn or a check
may find in a file; what differs is only which outcomes each of the two can record
(`Turn.isChecked_outcome`, `isLoaded_checkFile`).
-/

namespace HourlyIngest

variable {σ : Type}

/-! ## Figures of a report -/

namespace Report

/-- Every entry counts for one of the three figures. -/
theorem loaded_add_checked_add_failed (report : Report) :
    report.loaded + report.checked + report.failed = report.entries.length := by
  unfold loaded checked failed count
  induction report.entries with
  | nil => rfl
  | cons entry rest ih =>
      rw [List.countP_cons, List.countP_cons, List.countP_cons, List.length_cons, ← ih]
      cases entry.outcome with
      | loaded | checked | failed =>
          simp only [Outcome.isLoaded, Outcome.isChecked, Outcome.isFailed, Bool.false_eq_true,
            if_true, if_false]
          omega

theorem deleted_le_loaded (report : Report) : report.deleted ≤ report.loaded := by
  apply List.countP_mono_left
  intro entry _ hdeleted
  cases houtcome : entry.outcome with
  | loaded => rfl
  | checked | failed =>
      rw [houtcome] at hdeleted
      exact absurd hdeleted Bool.false_ne_true

/-- A figure is zero if no entry counts for it. -/
theorem count_eq_zero {report : Report} {property : Outcome → Bool}
    (hnone : ∀ entry ∈ report.entries, property entry.outcome = false) :
    report.count property = 0 := by
  rw [count, List.countP_eq_zero]
  intro entry hentry
  rw [hnone entry hentry]
  exact Bool.false_ne_true

theorem isComplete_iff (report : Report) :
    report.isComplete = true ↔ ∀ entry ∈ report.entries, ∀ error, entry.outcome ≠ .failed error := by
  have hfailed : ∀ outcome : Outcome,
      ¬ outcome.isFailed = true ↔ ∀ error, outcome ≠ .failed error := by
    intro outcome
    cases outcome <;> simp [Outcome.isFailed]
  rw [isComplete, beq_iff_eq, failed, count, List.countP_eq_zero]
  exact forall₂_congr fun entry _ => hfailed entry.outcome

end Report

/-! ## Counting down -/

/-- The lines of entries, written by a counter that goes from a first number to a last one.  For
each entry the counter is taken down by one, and its line shows what is left.  From zero it cannot
be taken down, so no entry comes behind a counter that stands at zero. -/
inductive Countdown : Nat → List Entry → List String → Nat → Prop
  | done {remaining : Nat} : Countdown remaining [] [] remaining
  | next {remaining last : Nat} {entry : Entry} {entries : List Entry} {lines : List String} :
      Countdown remaining entries lines last →
        Countdown (remaining + 1) (entry :: entries)
          (progressLine entry.name entry.outcome remaining :: lines) last

theorem Countdown.length_eq {first last : Nat} {entries : List Entry} {lines : List String}
    (hcount : Countdown first entries lines last) : lines.length = entries.length := by
  induction hcount with
  | done => rfl
  | next _ ih => rw [List.length_cons, List.length_cons, ih]

/-- Lines with the numbers of entries behind them are those of a counter that ends at zero. -/
theorem countdown_of_lines {entries : List Entry} {lines : List String}
    (hlines : ∀ i : Nat, lines[i]? = entries[i]?.map fun entry =>
      progressLine entry.name entry.outcome (entries.length - 1 - i)) :
    Countdown entries.length entries lines 0 := by
  induction entries generalizing lines with
  | nil =>
      cases lines with
      | nil => exact .done
      | cons line lines => exact absurd (hlines 0) (Option.some_ne_none line)
  | cons entry entries ih =>
      have hfirst := hlines 0
      cases lines with
      | nil => simp at hfirst
      | cons line lines =>
          obtain rfl : line = progressLine entry.name entry.outcome entries.length := by
            simpa using hfirst
          refine .next (ih fun i => ?_)
          have hnext := hlines (i + 1)
          rw [List.getElem?_cons_succ, List.getElem?_cons_succ, List.length_cons] at hnext
          have hcount : entries.length + 1 - 1 - (i + 1) = entries.length - 1 - i := by omega
          rwa [hcount] at hnext

/-! ## What a report says about a sweep -/

/-- The report of a sweep over some files agrees with the lines that the sweep has shown. -/
structure Sweep.Accounts (sweep : Sweep) (files : List SourceFile) (report : Report) : Prop where
  finished : report.finished.isSome = true
  names : report.entries.map Entry.name = files.map SourceFile.name
  length_lines : sweep.lines.length = files.length
  lines : ∀ i entry, report.entries[i]? = some entry →
    sweep.lines[i]? = some (progressLine entry.name entry.outcome (files.length - 1 - i))
  countdown : Countdown files.length report.entries sweep.lines 0
  total : report.loaded + report.checked + report.failed = files.length
  deleted_le : report.deleted ≤ report.loaded
  isComplete_iff : report.isComplete = true ↔
    ∀ entry ∈ report.entries, ∀ error, entry.outcome ≠ .failed error

theorem Sweep.Accounts.length_entries {sweep : Sweep} {files : List SourceFile} {report : Report}
    (haccounts : sweep.Accounts files report) : report.entries.length = files.length := by
  rw [← haccounts.countdown.length_eq, haccounts.length_lines]

/-- A sweep that has gone through the files accounts for them. -/
theorem Sweep.Through.accounts {sweep : Sweep} (hthrough : sweep.Through)
    {files : List SourceFile} (hnames : sweep.entries.map Entry.name = files.map SourceFile.name)
    {started finished : TimeStamp} {report : Report}
    (hreport : sweep.report started finished = .ok report) : sweep.Accounts files report := by
  obtain ⟨-, rfl⟩ := Sweep.report_eq_ok_iff.mp hreport
  have hlength : sweep.entries.length = files.length := by
    rw [← List.length_map Entry.name, hnames, List.length_map]
  have hcount : Countdown files.length sweep.entries sweep.lines 0 :=
    hlength ▸ countdown_of_lines hthrough.lines
  refine ⟨rfl, hnames, hcount.length_eq.trans hlength, ?_, hcount, ?_,
    Report.deleted_le_loaded _, Report.isComplete_iff _⟩
  · intro i entry hentry
    rw [hthrough.lines i, hlength, hentry]
    rfl
  · exact (Report.loaded_add_checked_add_failed _).trans hlength

section Load

variable {sink : Sink σ} {options : SweepOptions}

/-- A load records files as loaded or failed. -/
theorem Turn.isChecked_outcome (turn : Turn σ) :
    (turn.outcome sink options).isChecked = false := by
  have hending := turn.ending sink options
  unfold Turn.outcome
  generalize turn.result sink options = result at hending ⊢
  generalize turn.after sink options = after at hending
  cases hending <;> rfl

/-- A check records files as checked or failed. -/
theorem isLoaded_checkFile (fs : FileSystem) (file : SourceFile) :
    (checkFile fs file).isLoaded = false := by
  unfold checkFile
  cases Contents.ofPath fs file.path <;> rfl

theorem names_loadFiles {world : World σ} {files : List SourceFile}
    (hthrough : (loadFiles sink options world files).1.stopped = none) :
    (loadFiles sink options world files).1.entries.map Entry.name = files.map SourceFile.name := by
  calc
    (loadFiles sink options world files).1.entries.map Entry.name
      = ((turns sink options world files).map Turn.file).map SourceFile.name := by
        rw [entries_loadFiles, List.map_map, List.map_map]
        rfl
    _ = files.map SourceFile.name := by rw [map_file_turns_of_stopped_eq_none hthrough]

theorem names_checkFiles (fs : FileSystem) (files : List SourceFile) :
    (checkFiles fs files).entries.map Entry.name = files.map SourceFile.name := by
  rw [entries_checkFiles, List.map_map]
  rfl

/-- What a load reports: an account of the files in which nothing was only checked. -/
theorem accounts_loadFiles {world : World σ} {files : List SourceFile}
    {started finished : TimeStamp} {report : Report}
    (hreport : (loadFiles sink options world files).1.report started finished = .ok report) :
    (loadFiles sink options world files).1.Accounts files report ∧ report.checked = 0 := by
  obtain ⟨hthrough, hrecord⟩ := Sweep.report_eq_ok_iff.mp hreport
  refine ⟨(through_of_stopped_eq_none hthrough).accounts (names_loadFiles hthrough) hreport, ?_⟩
  apply Report.count_eq_zero
  rw [hrecord, entries_loadFiles, List.forall_mem_map]
  exact fun turn _ => turn.isChecked_outcome

/-- What a check reports: an account of the files in which nothing was loaded. -/
theorem accounts_checkFiles {fs : FileSystem} {files : List SourceFile}
    {started finished : TimeStamp} {report : Report}
    (hreport : (checkFiles fs files).report started finished = .ok report) :
    (checkFiles fs files).Accounts files report ∧ report.loaded = 0 := by
  obtain ⟨-, hrecord⟩ := Sweep.report_eq_ok_iff.mp hreport
  refine ⟨(through_checkFiles fs files).accounts (names_checkFiles fs files) hreport, ?_⟩
  apply Report.count_eq_zero
  rw [hrecord, entries_checkFiles, List.forall_mem_map]
  exact fun file _ => isLoaded_checkFile fs file

/-- A check of a directory is a check of the files that a scan finds, and it comes to a report. -/
theorem exists_report_of_checkDirectory {fs : FileSystem} {directory : Path} {sweep : Sweep}
    (hcheck : checkDirectory fs directory = .ok sweep) (started finished : TimeStamp) :
    ∃ found report, scan fs directory = .ok found ∧ sweep = checkFiles fs found ∧
      sweep.report started finished = .ok report := by
  rw [checkDirectory] at hcheck
  cases hscan : scan fs directory with
  | error failure => simp [hscan, Except.map] at hcheck
  | ok found =>
      obtain rfl : checkFiles fs found = sweep := by simpa [hscan, Except.map] using hcheck
      have hthrough := through_checkFiles fs found
      exact ⟨found, _, rfl, rfl, Sweep.report_eq_ok_iff.mpr ⟨hthrough.unstopped, rfl⟩⟩

/-- **The lines on the console and the report agree**, after a load as well as after a check.  A
check of a directory that can be scanned always comes to a report. -/
theorem reports_account_for_lines (sink : Sink σ) (options : SweepOptions) (world : World σ)
    (files : List SourceFile) (started finished : TimeStamp) :
    (∀ report, (loadFiles sink options world files).1.report started finished = .ok report →
      (loadFiles sink options world files).1.Accounts files report ∧ report.checked = 0) ∧
    ∀ directory sweep, checkDirectory world.files directory = .ok sweep →
      ∃ found report, scan world.files directory = .ok found ∧
        sweep.report started finished = .ok report ∧ sweep.Accounts found report ∧
          report.loaded = 0 := by
  refine ⟨fun report => accounts_loadFiles, ?_⟩
  intro directory sweep hcheck
  obtain ⟨found, report, hscan, rfl, hreport⟩ :=
    exists_report_of_checkDirectory hcheck started finished
  exact ⟨found, report, hscan, hreport, accounts_checkFiles hreport⟩

end Load

/-- The sample directory can be scanned. -/
theorem Sample.exists_scan : ∃ found, scan files directory = .ok found ∧
    found.Perm ((files.children [directory]).filterMap (SourceFile.ofChild? directory)) := by
  have hlookup : files.lookup .node directory = .ok ([directory], .directory) := by decide +kernel
  have hscan := scan_eq_ok_iff.mpr ⟨_, hlookup, rfl⟩
  exact ⟨_, hscan, perm_of_scan hscan hlookup⟩

/-- The files of the sample directory are loaded, and the directory is checked.  Of the three files
that are found, one cannot be read. -/
theorem reports_account_for_lines_sample :
    let world : World Wavering := ⟨{}, Sample.files⟩
    (∃ report, (loadFiles Wavering.sink {} world Sample.sources).1.report Sample.epoch
        Sample.epoch = .ok report ∧
      (loadFiles Wavering.sink {} world Sample.sources).1.Accounts Sample.sources report ∧
        report.checked = 0) ∧
    ∃ sweep found report, checkDirectory world.files Sample.directory = .ok sweep ∧
      sweep.report Sample.epoch Sample.epoch = .ok report ∧ sweep.Accounts found report ∧
        report.loaded = 0 ∧ found.length = 3 ∧ report.failed = 1 := by
  intro world
  have haccount := reports_account_for_lines Wavering.sink {} world Sample.sources Sample.epoch
    Sample.epoch
  have hthrough : (loadFiles Wavering.sink {} world Sample.sources).1.Through :=
    through_loadFiles rfl world Sample.sources
  refine ⟨?_, ?_⟩
  · have hreport := Sweep.report_eq_ok_iff.mpr
      ⟨hthrough.unstopped, Eq.refl (Report.mk Sample.epoch (some Sample.epoch) _)⟩
    exact ⟨_, hreport, haccount.1 _ hreport⟩
  · obtain ⟨files, hscan, hperm⟩ := Sample.exists_scan
    have hcheck : checkDirectory world.files Sample.directory =
        .ok (checkFiles world.files files) := by
      rw [checkDirectory, hscan]
      rfl
    obtain ⟨found, report, hfound, hreport, haccounts, hloaded⟩ := haccount.2 _ _ hcheck
    obtain rfl := Except.ok.inj (hscan.symm.trans hfound)
    refine ⟨_, _, report, hcheck, hreport, haccounts, hloaded, ?_, ?_⟩
    · rw [hperm.length_eq]
      decide +kernel
    · obtain ⟨-, rfl⟩ := Sweep.report_eq_ok_iff.mp hreport
      rw [Report.failed, Report.count, entries_checkFiles, List.countP_map, hperm.countP_eq]
      decide +kernel

end HourlyIngest
