import HourlyIngest.Proofs.Sweep.Account

/-!
# The summary of a sweep

A summary does not know which command it sums up.  It decides by the outcomes: where a file was
checked, the line on checked files is written, and otherwise the three lines on loading.  After a
load that is right, for a load checks no file.  After a check it is right as long as one file could
be read; if there was none, the summary of the check is that of a load which has done nothing
(`summary_of_empty_check`).  The rest of a summary is the same after both commands
(`Report.Summarizes`).
-/

namespace HourlyIngest

variable {σ : Type}

/-! ## The parts of a summary -/

/-- The line on a failed file. -/
def Entry.Tells (entry : Entry) (line : String) : Prop :=
  ∃ error, entry.outcome = .failed error ∧ line = "  " ++ entry.name ++ ": " ++ error

namespace Report

variable {report : Report}

/-- The block on the failed files: there is none without a failed file, and otherwise it has a line
for each of them, in the order of the entries. -/
structure ListsFailures (report : Report) (block : List String) : Prop where
  absent : report.failed = 0 → block = []
  present : 0 < report.failed → ∃ lines, block = "" :: "Failed files:" :: lines ∧
    List.Forall₂ Entry.Tells (report.entries.filter fun entry => entry.outcome.isFailed) lines

/-- The summary of a finished report on a number of files, with the given lines on what was
done. -/
def Summarizes (report : Report) (number : Nat) (counts : List String) : Prop :=
  ∃ finished block, report.finished = some finished ∧ report.ListsFailures block ∧
    report.summary = String.join (
      (["=== Load Summary ===", "CSV files: " ++ toString number] ++ counts ++
        ["Failed: " ++ toString report.failed,
          "Elapsed: " ++
            Instant.secondsText (report.started.instant.millisecondsUntil finished.instant) ++
              "s"] ++
        block).map (· ++ "\n"))

theorem tells_filterMap (entries : List Entry) :
    List.Forall₂ Entry.Tells (entries.filter fun entry => entry.outcome.isFailed)
      (entries.filterMap failureLine?) := by
  induction entries with
  | nil => exact .nil
  | cons entry entries ih =>
      obtain ⟨name, outcome⟩ := entry
      cases outcome with
      | failed error => exact .cons ⟨error, rfl, rfl⟩ ih
      | loaded | checked => exact ih

theorem listsFailures_failureLines (report : Report) : report.ListsFailures report.failureLines where
  absent hnone := if_pos (beq_iff_eq.mpr hnone)
  present hsome := by
    have hincomplete : ¬ report.isComplete = true := by
      rw [isComplete, beq_iff_eq]
      exact Nat.pos_iff_ne_zero.mp hsome
    exact ⟨_, if_neg hincomplete, tells_filterMap report.entries⟩

/-- A finished report is summed up with its lines on what was done. -/
theorem summarizes_countLines {number : Nat} (hfinished : report.finished.isSome = true)
    (hnumber : report.entries.length = number) : report.Summarizes number report.countLines := by
  obtain ⟨finished, hfinished⟩ := Option.isSome_iff_exists.mp hfinished
  refine ⟨finished, report.failureLines, hfinished, report.listsFailures_failureLines, ?_⟩
  rw [summary, summaryLines, elapsedLines, hfinished, hnumber, List.append_assoc _ [_] [_]]
  rfl

theorem countLines_of_checked_pos (hchecked : 0 < report.checked) :
    report.countLines = ["Checked: " ++ toString report.checked] :=
  if_pos hchecked

theorem countLines_of_checked_eq_zero (hchecked : report.checked = 0) :
    report.countLines =
      ["Loaded: " ++ toString report.loaded, "Deleted: " ++ toString report.deleted,
        "Rows inserted: " ++ toString report.rows] := by
  rw [countLines, hchecked, if_neg (Nat.lt_irrefl 0)]

/-- Without a loaded file there are no rows, and nothing was deleted. -/
theorem rows_eq_zero (hloaded : report.loaded = 0) : report.rows = 0 := by
  rw [loaded, count, List.countP_eq_zero] at hloaded
  unfold rows
  generalize report.entries = entries at hloaded ⊢
  induction entries with
  | nil => rfl
  | cons entry rest ih =>
      rw [List.forall_mem_cons] at hloaded
      rw [List.foldr_cons, ih hloaded.2]
      cases houtcome : entry.outcome with
      | loaded => exact absurd (houtcome ▸ rfl) hloaded.1
      | checked | failed => rfl

end Report

/-! ## Both commands -/

/-- A check counts a file as checked if it could be read. -/
theorem checked_pos_iff {fs : FileSystem} {files : List SourceFile} {started finished : TimeStamp}
    {report : Report} (hreport : (checkFiles fs files).report started finished = .ok report) :
    0 < report.checked ↔
      ∃ file ∈ files, ∃ contents, Contents.ofPath fs file.path = .ok contents := by
  obtain ⟨-, rfl⟩ := Sweep.report_eq_ok_iff.mp hreport
  have hchecked : ∀ file, (checkFile fs file).isChecked = true ↔
      ∃ contents, Contents.ofPath fs file.path = .ok contents := by
    intro file
    unfold checkFile
    cases Contents.ofPath fs file.path <;> simp [Outcome.isChecked]
  rw [Report.checked, Report.count, entries_checkFiles, List.countP_map, List.countP_pos_iff]
  exact exists_congr fun file => and_congr_right fun _ => hchecked file

/-- What the summary of a check says, by whether a file could be read. -/
theorem summarizes_checkFiles {fs : FileSystem} {files : List SourceFile}
    {started finished : TimeStamp} {report : Report}
    (hreport : (checkFiles fs files).report started finished = .ok report) :
    ((∃ file ∈ files, ∃ contents, Contents.ofPath fs file.path = .ok contents) →
      report.Summarizes files.length ["Checked: " ++ toString report.checked]) ∧
    ((∀ file ∈ files, ∃ failure, Contents.ofPath fs file.path = .error failure) →
      report.Summarizes files.length ["Loaded: 0", "Deleted: 0", "Rows inserted: 0"]) := by
  obtain ⟨haccounts, hloaded⟩ := accounts_checkFiles hreport
  have hsummary := Report.summarizes_countLines haccounts.finished haccounts.length_entries
  refine ⟨?_, ?_⟩
  · intro hread
    rwa [Report.countLines_of_checked_pos ((checked_pos_iff hreport).mpr hread)] at hsummary
  · intro hunread
    have hchecked : report.checked = 0 := by
      apply Nat.eq_zero_of_not_pos
      rw [checked_pos_iff hreport]
      rintro ⟨file, hfile, contents, hread⟩
      obtain ⟨failure, hfailure⟩ := hunread file hfile
      rw [hread] at hfailure
      cases hfailure
    have hdeleted : report.deleted = 0 :=
      Nat.le_zero.mp (hloaded ▸ report.deleted_le_loaded)
    rwa [Report.countLines_of_checked_eq_zero hchecked, hloaded, hdeleted,
      Report.rows_eq_zero hloaded] at hsummary

/-- **What the summaries of the two commands say.**  The summary of a load has the figures of the
report and no line on checked files.  The summary of a check has the line on checked files if some
file could be read, and nothing on loading; but if no file could be read, it has the lines on
loading in the place of that line. -/
theorem summaries_of_sweeps (sink : Sink σ) (options : SweepOptions) (world : World σ)
    (files : List SourceFile) (started finished : TimeStamp) :
    (∀ report, (loadFiles sink options world files).1.report started finished = .ok report →
      report.loaded + report.failed = files.length ∧
        report.Summarizes files.length
          ["Loaded: " ++ toString report.loaded, "Deleted: " ++ toString report.deleted,
            "Rows inserted: " ++ toString report.rows]) ∧
    ∀ directory sweep, checkDirectory world.files directory = .ok sweep →
      ∃ found report, scan world.files directory = .ok found ∧
        sweep.report started finished = .ok report ∧
          report.checked + report.failed = found.length ∧
            ((∃ file ∈ found, ∃ contents, Contents.ofPath world.files file.path = .ok contents) →
              report.Summarizes found.length ["Checked: " ++ toString report.checked]) ∧
            ((∀ file ∈ found, ∃ failure,
                Contents.ofPath world.files file.path = .error failure) →
              report.Summarizes found.length
                ["Loaded: 0", "Deleted: 0", "Rows inserted: 0"]) := by
  refine ⟨?_, ?_⟩
  · intro report hreport
    obtain ⟨haccounts, hchecked⟩ := accounts_loadFiles hreport
    have htotal := haccounts.total
    rw [hchecked, Nat.add_zero] at htotal
    refine ⟨htotal, ?_⟩
    rw [← Report.countLines_of_checked_eq_zero hchecked]
    exact Report.summarizes_countLines haccounts.finished haccounts.length_entries
  · intro directory sweep hcheck
    obtain ⟨found, report, hscan, rfl, hreport⟩ :=
      exists_report_of_checkDirectory hcheck started finished
    obtain ⟨haccounts, hloaded⟩ := accounts_checkFiles hreport
    have htotal := haccounts.total
    rw [hloaded, Nat.zero_add] at htotal
    exact ⟨found, report, hscan, hreport, htotal, summarizes_checkFiles hreport⟩

/-- The files of the sample directory are loaded, and the directory is checked. -/
theorem summaries_of_sweeps_sample :
    let world : World Wavering := ⟨{}, Sample.files⟩
    (∃ report, (loadFiles Wavering.sink {} world Sample.sources).1.report Sample.epoch
        Sample.epoch = .ok report ∧
      report.Summarizes 3
        ["Loaded: " ++ toString report.loaded, "Deleted: " ++ toString report.deleted,
          "Rows inserted: " ++ toString report.rows]) ∧
    ∃ sweep report, checkDirectory world.files Sample.directory = .ok sweep ∧
      sweep.report Sample.epoch Sample.epoch = .ok report ∧
        report.Summarizes 3 ["Checked: " ++ toString report.checked] := by
  intro world
  have hsummaries := summaries_of_sweeps Wavering.sink {} world Sample.sources Sample.epoch
    Sample.epoch
  have hthrough : (loadFiles Wavering.sink {} world Sample.sources).1.Through :=
    through_loadFiles rfl world Sample.sources
  refine ⟨?_, ?_⟩
  · have hreport := Sweep.report_eq_ok_iff.mpr
      ⟨hthrough.unstopped, Eq.refl (Report.mk Sample.epoch (some Sample.epoch) _)⟩
    exact ⟨_, hreport, (hsummaries.1 _ hreport).2⟩
  · obtain ⟨files, hscan, hperm⟩ := Sample.exists_scan
    have hcheck : checkDirectory world.files Sample.directory =
        .ok (checkFiles world.files files) := by
      rw [checkDirectory, hscan]
      rfl
    obtain ⟨found, report, hfound, hreport, -, hread, -⟩ := hsummaries.2 _ _ hcheck
    obtain rfl := Except.ok.inj (hscan.symm.trans hfound)
    have hlength : files.length = 3 := by
      rw [hperm.length_eq]
      decide +kernel
    refine ⟨_, report, hcheck, hreport, hlength ▸ hread ?_⟩
    have hsome : ∃ file ∈ (world.files.children [Sample.directory]).filterMap
        (SourceFile.ofChild? Sample.directory),
        (Contents.ofPath world.files file.path).toOption.isSome = true := by decide +kernel
    obtain ⟨file, hfile, hcontents⟩ := hsome
    refine ⟨file, hperm.mem_iff.mpr hfile, ?_⟩
    cases hof : Contents.ofPath world.files file.path with
    | ok contents => exact ⟨contents, rfl⟩
    | error failure =>
        rw [hof] at hcontents
        cases hcontents

/-- The summary of a check of an empty directory speaks of loading and not of checking. -/
theorem summary_of_empty_check :
    let fs : FileSystem := { entries := [([Sample.directory], .directory)], working := [] }
    ∃ sweep report, checkDirectory fs Sample.directory = .ok sweep ∧
      sweep.report Sample.epoch Sample.epoch = .ok report ∧
        report.summary = "=== Load Summary ===\nCSV files: 0\nLoaded: 0\nDeleted: 0\n" ++
          "Rows inserted: 0\nFailed: 0\nElapsed: 0.0s\n" := by
  intro fs
  refine ⟨{}, { started := Sample.epoch, finished := some Sample.epoch }, ?_, rfl, ?_⟩
  · decide +kernel
  · decide +kernel

end HourlyIngest
