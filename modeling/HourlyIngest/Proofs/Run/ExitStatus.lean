import HourlyIngest.Database.Script
import HourlyIngest.Proofs.Run.Course
import HourlyIngest.Proofs.SourceFile.Scan

/-!
# What the end of a run to load says

Whoever has started a run learns from its end alone what it came to, and may go on from there.  So a
run that ends well has loaded everything (`result_eq_ok_iff`), which means that it has committed
every row and left none of the files that it was to delete; a run that could not get ready has done
no harm; and one that has met failures says so.  `ExitStatus` has a field for each of these.
-/

namespace HourlyIngest

open CommandLine Database

variable {σ : Type}

/-- The place at which a report ends up, once the directories above it have been made. -/
def reportPlace (fs : FileSystem) (path : String) : Except IoFault Location :=
  (fs.makeParents (Path.ofString path)).2.locate .file (Path.ofString path)

section Status

variable (server : Server σ) (surroundings : Surroundings) (config : Option Path)
  (arguments : LoadArguments) (opened : World (Session σ))

/-- The report, if there is one, does not take the place of a file that was listed; it does not if
it goes anywhere outside of the source directory. -/
def ReportsElsewhere (ready : Preparation σ) : Prop :=
  ∀ path, arguments.report = some path → ∀ file ∈ ready.files, ∀ place,
    opened.files.locate .entry file.path = .ok place →
      reportPlace (ready.sweep server).2.files path ≠ .ok place

/-- What the end of a run to load says.  `opened` is what the run has found behind the opening of
its log. -/
structure ExitStatus (run : Run σ) : Prop where
  /-- A run ends well exactly if the settings could be loaded, the directory could be scanned, the
  connection was made, every file was loaded, and the report was written if it was asked for. -/
  ok_iff : run.result = .ok () ↔
    ∃ ready after, Prepares server surroundings config arguments opened ready ∧
      AllLoaded ready.files (ready.sweep server).1.entries ∧
        Reported (ready.report server surroundings) arguments.report (ready.sweep server).2.files
          after
  /-- Without settings, directory or connection nothing is changed and nothing inserted. -/
  unprepared : (∀ ready, ¬ Prepares server surroundings config arguments opened ready) →
    (∃ failure, run.result = .error failure) ∧ Harmless opened run.world
  /-- A run that goes on after failures and has met some says how many they are, when it has printed
  the summary and written the report. -/
  incomplete : ∀ ready after, Prepares server surroundings config arguments opened ready →
    ready.settings.failFast = false →
      (∃ turn ∈ ready.turns server, ¬ ready.Loads server turn) →
        Reported (ready.report server surroundings) arguments.report (ready.sweep server).2.files
          after →
          run.result = .error (.batchIncomplete
            ((ready.turns server).countP fun turn => ¬ ready.Loads server turn)
            ready.files.length) ∧
            run.printed =
              summarized (ready.sweep server).1 (ready.report server surroundings) ++
                reportLines arguments.report ∧
              run.world = { (ready.sweep server).2 with files := after }
  /-- A run that stops at failures ends with the first one, behind which no file has its turn. -/
  strict : ∀ ready, Prepares server surroundings config arguments opened ready →
    ready.settings.failFast = true →
      (∃ turn ∈ ready.turns server, ¬ ready.Loads server turn) →
        ∃ earlier last failure, ready.turns server = earlier ++ [last] ∧
          (∀ turn ∈ earlier, ready.Loads server turn) ∧
            last.result (ready.writer.sink server) ready.settings.sweepOptions =
              .error failure ∧
              run.result = .error failure
  /-- A run that ends well has committed the rows of each file in a transaction of its own. -/
  committed : run.result = .ok () →
    ∀ ready, Prepares server surroundings config arguments opened ready →
      ∃ segments, run.world.sink.exchanges =
        ready.connected.sink.exchanges ++ segments.flatten ∧
          List.Forall₂ (CommittedFrom opened.files ready.writer) ready.files segments
  /-- A run that ends well and was to delete files leaves none of those that it has listed. -/
  gone : run.result = .ok () →
    ∀ ready, Prepares server surroundings config arguments opened ready →
      ready.settings.deleteAfterLoad = true → ReportsElsewhere server arguments opened ready →
        ∀ file ∈ ready.files, ∃ place, opened.files.locate .entry file.path = .ok place ∧
          ∀ bytes, run.world.files.node? place ≠ some (.file bytes)

variable {server surroundings config arguments opened} {ready : Preparation σ}

/-! ## Sweeps and their reports -/

/-- A report is complete if no file has failed. -/
theorem completeness_eq_ok_iff {report : Report} :
    report.completeness = .ok () ↔ ∀ entry ∈ report.entries, entry.outcome.isFailed = false := by
  unfold Report.completeness Report.isComplete Report.failed Report.count
  split
  · next hzero => simpa [List.countP_eq_zero] using hzero
  · next hsome => simpa [List.countP_eq_zero] using hsome

namespace Preparation

/-- Whether all turns have loaded their files can be seen from the report. -/
theorem completeness_eq_ok_iff (ready : Preparation σ) :
    (ready.report server surroundings).completeness = .ok () ↔
      ∀ turn ∈ ready.turns server, ready.Loads server turn := by
  rw [HourlyIngest.completeness_eq_ok_iff]
  simp only [report, sweep, entries_loadFiles, List.forall_mem_map]
  exact forall₂_congr fun turn _ => Turn.loads_iff_isFailed.symm

/-- The failures that a report counts are the turns that have not loaded their files. -/
theorem failed_report (ready : Preparation σ) :
    (ready.report server surroundings).failed =
      (ready.turns server).countP fun turn => ¬ ready.Loads server turn := by
  simp only [Report.failed, Report.count, report, sweep, entries_loadFiles, List.countP_map]
  refine List.countP_congr fun turn _ => ?_
  simp only [Function.comp_apply, Turn.entry, decide_eq_true_eq, Loads, Turn.loads_iff_isFailed]
  simp

/-- Of a sweep that went through, all files are in the report. -/
theorem length_entries (ready : Preparation σ)
    (hthrough : (ready.sweep server).1.stopped = none) :
    (ready.report server surroundings).entries.length = ready.files.length :=
  length_entries_loadFiles hthrough

theorem allLoaded_iff (ready : Preparation σ) :
    AllLoaded ready.files (ready.sweep server).1.entries ↔
      ∀ turn ∈ ready.turns server, ready.Loads server turn :=
  HourlyIngest.allLoaded_iff

end Preparation

/-! ## Runs to load -/

/-- The sweep begins with the files that the run has found. -/
theorem Prepares.files_eq (hready : Prepares server surroundings config arguments opened ready) :
    ready.connected.files = opened.files :=
  (harmless_of_connectTo hready.connected).files

/-- A run that ends well has had its report written, and all its turns have loaded their files. -/
theorem Prepares.of_result_eq_ok
    (hready : Prepares server surroundings config arguments opened ready)
    (hok : (Run.load server surroundings config arguments opened).result = .ok ()) :
    (∀ turn ∈ ready.turns server, ready.Loads server turn) ∧
      ∃ after, Reported (ready.report server surroundings) arguments.report
        (ready.sweep server).2.files after ∧
          (Run.load server surroundings config arguments opened).world =
            { (ready.sweep server).2 with files := after } := by
  cases hstopped : (ready.sweep server).1.stopped with
  | some failure =>
      rw [load_of_stopped hready hstopped] at hok
      cases hok
  | none =>
      obtain ⟨after, hreported⟩ | ⟨path, fault, after, hpath, hwrite⟩ :=
        reported_or_unwritten (ready.report server surroundings) arguments.report
          (ready.sweep server).2.files
      · rw [load_of_reported hready hstopped hreported] at hok ⊢
        exact ⟨ready.completeness_eq_ok_iff.mp hok, after, hreported, rfl⟩
      · rw [load_of_unwritten hready hstopped hpath hwrite] at hok
        cases hok

theorem result_eq_ok_iff :
    (Run.load server surroundings config arguments opened).result = .ok () ↔
      ∃ ready after, Prepares server surroundings config arguments opened ready ∧
        AllLoaded ready.files (ready.sweep server).1.entries ∧
          Reported (ready.report server surroundings) arguments.report (ready.sweep server).2.files
            after := by
  constructor
  · intro hok
    by_contra hnot
    have hnever : ∀ ready, ¬ Prepares server surroundings config arguments opened ready := by
      intro ready hready
      obtain ⟨hall, after, hreported, -⟩ := hready.of_result_eq_ok hok
      exact hnot ⟨ready, after, hready, ready.allLoaded_iff.mpr hall, hreported⟩
    obtain ⟨failure, after, hload, -⟩ := load_of_unprepared hnever
    rw [hload] at hok
    cases hok
  · rintro ⟨ready, after, hready, hloaded, hreported⟩
    have hall := ready.allLoaded_iff.mp hloaded
    rw [load_of_reported hready (stopped_eq_none_of_loads hall) hreported]
    exact ready.completeness_eq_ok_iff.mpr hall

/-- A run that goes on after failures, and has met some, says how many they are. -/
theorem Prepares.load_of_incomplete
    (hready : Prepares server surroundings config arguments opened ready)
    (htolerant : ready.settings.failFast = false)
    (hsome : ∃ turn ∈ ready.turns server, ¬ ready.Loads server turn) {after : FileSystem}
    (hreported : Reported (ready.report server surroundings) arguments.report
      (ready.sweep server).2.files after) :
    Run.load server surroundings config arguments opened =
      ⟨.error (.batchIncomplete
          ((ready.turns server).countP fun turn => ¬ ready.Loads server turn) ready.files.length),
        summarized (ready.sweep server).1 (ready.report server surroundings) ++
          reportLines arguments.report,
        { (ready.sweep server).2 with files := after }⟩ := by
  have hthrough : (ready.sweep server).1.stopped = none :=
    (through_loadFiles htolerant _ _ : (ready.sweep server).1.Through).unstopped
  have hincomplete : (ready.report server surroundings).completeness =
      .error (.batchIncomplete (ready.report server surroundings).failed
        (ready.report server surroundings).entries.length) := by
    have hnot : ¬ (ready.report server surroundings).completeness = .ok () := by
      rw [ready.completeness_eq_ok_iff]
      push Not
      exact hsome
    unfold Report.completeness at hnot ⊢
    split at hnot
    · exact absurd rfl hnot
    · next hincomplete => rw [if_neg hincomplete]
  rw [load_of_reported hready hthrough hreported, hincomplete, ready.failed_report,
    ready.length_entries hthrough]

/-- The exchanges behind the connection are those that have committed the files. -/
theorem Prepares.exists_segments
    (hready : Prepares server surroundings config arguments opened ready)
    (hok : (Run.load server surroundings config arguments opened).result = .ok ()) :
    ∃ segments, (Run.load server surroundings config arguments opened).world.sink.exchanges =
      ready.connected.sink.exchanges ++ segments.flatten ∧
        List.Forall₂ (CommittedFrom opened.files ready.writer) ready.files segments := by
  obtain ⟨hall, after, -, hworld⟩ := hready.of_result_eq_ok hok
  have hthinned : opened.files.Thinned ready.connected.files := by
    rw [hready.files_eq]
    exact .refl _
  rw [hworld]
  exact HourlyIngest.exists_segments hthinned hall

/-- A regular file that stands somewhere behind the writing of a report stood there before, unless
it is the report. -/
theorem Reported.file {report : Report} {path : Option String} {files after : FileSystem}
    (hreported : Reported report path files after) {place : Location}
    (helsewhere : ∀ name, path = some name → reportPlace files name ≠ .ok place)
    {bytes : Text.Bytes} (hfile : after.node? place = some (.file bytes)) :
    files.node? place = some (.file bytes) := by
  cases path with
  | none =>
      obtain rfl : after = files := hreported
      exact hfile
  | some name =>
      have hplace := helsewhere name rfl
      unfold reportPlace at hplace
      have hextended := FileSystem.extended_makeParents files (Path.ofString name)
      simp only [Reported, Report.write] at hreported
      generalize files.makeParents (Path.ofString name) = made at hplace hextended hreported
      obtain ⟨answer, made⟩ := made
      cases answer with
      | error fault => simp at hreported
      | ok _ =>
          simp only at hreported hplace hextended
          split at hreported
          · simp at hreported
          · next written hwrite =>
            obtain rfl : written = after := (Prod.mk.inj hreported).2
            obtain ⟨there, hthere, -, -, rfl⟩ := FileSystem.write_eq_ok_iff.mp hwrite
            rw [FileSystem.node?_put, if_neg] at hfile
            · exact hextended.file hfile
            · rintro ⟨rfl, -⟩
              exact hplace hthere

theorem Prepares.gone (hready : Prepares server surroundings config arguments opened ready)
    (hok : (Run.load server surroundings config arguments opened).result = .ok ())
    (hdelete : ready.settings.deleteAfterLoad = true)
    (helsewhere : ReportsElsewhere server arguments opened ready) {file : SourceFile}
    (hfile : file ∈ ready.files) :
    ∃ place, opened.files.locate .entry file.path = .ok place ∧ ∀ bytes,
      (Run.load server surroundings config arguments opened).world.files.node? place ≠
        some (.file bytes) := by
  obtain ⟨hall, after, hreported, hworld⟩ := hready.of_result_eq_ok hok
  have hwanted : ready.settings.sweepOptions.deleteAfterLoad = true := hdelete
  obtain ⟨place, hplace, hempty⟩ :=
    empty_of_all_loaded (ready.writer.quiet_sink server) hwanted hall hfile
  rw [hready.files_eq] at hplace
  refine ⟨place, hplace, fun bytes hbytes => ?_⟩
  rw [hworld] at hbytes
  have hleft := hreported.file
    (fun name hname => helsewhere name hname file hfile place hplace) hbytes
  exact absurd (hempty.symm.trans hleft) (by simp)

end Status

/-! ## Runs of the program -/

/-- The opening of the log changes the log alone. -/
theorem node?_of_beginLog {log : Option String} {fs opened : FileSystem}
    (hlog : beginLog log fs = .ok opened) {there : Location}
    (helsewhere : ∀ path, log = some path → fs.locate .file (Path.ofString path) ≠ .ok there) :
    opened.node? there = fs.node? there := by
  cases log with
  | none =>
      obtain rfl : fs = opened := Except.ok.inj hlog
      rfl
  | some path =>
      simp only [beginLog] at hlog
      split at hlog
      · next written hwrite =>
        obtain rfl : written = opened := Except.ok.inj hlog
        obtain ⟨place, hplace, -, -, rfl⟩ := FileSystem.write_eq_ok_iff.mp hwrite
        rw [FileSystem.node?_put, if_neg]
        rintro ⟨rfl, -⟩
        exact helsewhere path rfl hplace
      · cases hlog

namespace Sample

/-- The directory with two source files, which have two rows and none. -/
def tables : FileSystem where
  entries :=
    [([directory], .directory), (place 0x61, table [0x31, 0x0A, 0x32, 0x0A]),
      (place 0x62, table [])]
  working := []

/-- The directory with a source file of one row and one that cannot be read. -/
def spoiledTables : FileSystem where
  entries :=
    [([directory], .directory), (place 0x62, table [0x33, 0x0A]), (place 0x63, .file [0x31, 0x0A])]
  working := []

/-- A file system with an empty log. -/
def logged (files : FileSystem) : FileSystem :=
  files.put [[0x6C, 0x6F, 0x67]] (.file [])

/-- The name `localhost` has two addresses.  At the second of them there is a server, which carries
out every statement. -/
def network : Server Database.Script where
  listening := []
  resolve := fun name =>
    if name = "localhost" then .ok [.v6 [0, 0, 0, 0, 0, 0, 0, 1], .v4 127 0 0 1]
    else .error "failed to lookup address information: Name or service not known"
  accept := fun script endpoint =>
    if endpoint = .tcp (.v4 127 0 0 1) 5432 then .ok script
    else .error IoFault.connectionRefused.message
  reply := Database.Script.reply

/-- One row goes into each statement. -/
def surroundings : Surroundings where
  environment := [("NOAA_LOADER_BATCH_SIZE", "1")]
  formats := .plain
  account := "me"
  shuffle := .still
  started := epoch
  finished := epoch

/-- Load the files of the directory and write a report to a directory that is still to be made. -/
def arguments : LoadArguments :=
  { sourceDir := some "in", report := some "out/last.json" }

def invocation : Invocation :=
  { logFile := some "log", command := .load arguments }

/-- What is found without a settings file. -/
def settings : Settings :=
  ⟨"in", "noaa_hourly_raw", 1, true, false, {}⟩

def world (files : FileSystem) : World (Session Database.Script) :=
  ⟨{ server := {} }, files⟩

/-- The run. -/
def run (files : FileSystem) : Run Database.Script :=
  invocation.run network surroundings (world files)

/-- What the run has got together when its sweep begins. -/
def ready (files : FileSystem) (letters : List UInt8) : Preparation Database.Script where
  settings := settings
  files := letters.map fun letter => SourceFile.ofPath (Path.join directory (name letter))
  connected := (connectTo network surroundings settings (world (logged files))).2

section Ready

variable {files : FileSystem} {letters : List UInt8}

/-- The run gets ready if the files that it finds are sorted already. -/
theorem prepares_ready
    (hsettings : Settings.load .plain (logged files) surroundings.environment none
      arguments.overrides = .ok settings)
    (hlookup : (logged files).lookup .node settings.directory = .ok ([directory], .directory))
    (hfound : ((logged files).children [directory]).filterMap
      (SourceFile.ofChild? settings.directory) = (ready files letters).files)
    (hsorted : (ready files letters).files.Pairwise (SourceFile.precedes · ·))
    (hconnected : (connectTo network surroundings settings (world (logged files))).1 = .ok ()) :
    Prepares network surroundings none arguments (world (logged files)) (ready files letters) where
  settings := hsettings
  files := by
    refine scan_eq_ok_iff.mpr ⟨_, hlookup, ?_⟩
    rw [← List.mergeSort_of_pairwise hsorted, ← hfound]
    rfl
  connected := Prod.ext hconnected rfl

/-- The report of the run, and what comes of writing it. -/
def written (files : FileSystem) (letters : List UInt8) : Except IoFault Unit × FileSystem :=
  ((ready files letters).report network surroundings).write (Path.ofString "out/last.json")
    ((ready files letters).sweep network).2.files

theorem reported_written (hwritten : (written files letters).1 = .ok ()) :
    Reported ((ready files letters).report network surroundings) arguments.report
      ((ready files letters).sweep network).2.files (written files letters).2 :=
  Prod.ext hwritten rfl

end Ready

theorem prepares_tables : Prepares network surroundings none arguments (world (logged tables))
    (ready tables [0x61, 0x62]) :=
  prepares_ready (by decide +kernel) (by decide +kernel) (by decide +kernel) (by decide +kernel)
    (by decide +kernel)

theorem prepares_spoiledTables : Prepares network surroundings none arguments
    (world (logged spoiledTables)) (ready spoiledTables [0x62, 0x63]) :=
  prepares_ready (by decide +kernel) (by decide +kernel) (by decide +kernel) (by decide +kernel)
    (by decide +kernel)

/-- Both files are loaded, and the report can be written and is none of them. -/
theorem course_tables :
    ((ready tables [0x61, 0x62]).report network surroundings).completeness = .ok () ∧
      (written tables [0x61, 0x62]).1 = .ok () ∧
        ∀ file ∈ (ready tables [0x61, 0x62]).files,
          (logged tables).locate .entry file.path ≠
            reportPlace ((ready tables [0x61, 0x62]).sweep network).2.files "out/last.json" := by
  decide +kernel

/-- One file fails, and the report can be written. -/
theorem course_spoiledTables :
    ((ready spoiledTables [0x62, 0x63]).report network surroundings).failed = 1 ∧
      (written spoiledTables [0x62, 0x63]).1 = .ok () := by
  decide +kernel

end Sample

end HourlyIngest
