import HourlyIngest.Proofs.Database.Greeting
import HourlyIngest.Proofs.FileSystem.Writing
import HourlyIngest.Proofs.Sweep.Commitment
import HourlyIngest.Run

/-!
# The courses that a run to load can take

A run to load gets its settings, lists the files and connects; it sweeps; it prints a summary,
writes a report and looks whether all went well.  Each of these steps may be its last.  A run that
does not get ready for its sweep does no harm (`load_of_unprepared`).  One that does (`Prepares`) is
stopped in its sweep (`load_of_stopped`), cannot write its report (`load_of_unwritten`), or comes to
its end (`load_of_reported`), and these are all the courses that there are.
-/

namespace HourlyIngest

open CommandLine Database

variable {σ : Type}

/-- What a run has got together when its sweep begins. -/
structure Preparation (σ : Type) where
  settings : Settings
  files : List SourceFile
  connected : World (Session σ)

namespace Preparation

variable (server : Server σ) (surroundings : Surroundings) (ready : Preparation σ)

def writer : Writer :=
  Writer.ofSize ready.settings.table ready.settings.batchSize

/-- The turns of the sweep. -/
def turns : List (Turn (Session σ)) :=
  HourlyIngest.turns (ready.writer.sink server) ready.settings.sweepOptions ready.connected
    ready.files

/-- The turn of a file has loaded it. -/
def Loads (turn : Turn (Session σ)) : Prop :=
  turn.Loads (ready.writer.sink server) ready.settings.sweepOptions

instance (turn : Turn (Session σ)) : Decidable (ready.Loads server turn) :=
  inferInstanceAs (Decidable (turn.Loads _ _))

/-- The sweep, and the world behind it. -/
def sweep : Sweep × World (Session σ) :=
  loadFiles (ready.writer.sink server) ready.settings.sweepOptions ready.connected ready.files

/-- The report of the sweep if it goes through. -/
def report : Report where
  started := surroundings.started
  finished := some surroundings.finished
  entries := (ready.sweep server).1.entries

end Preparation

section Course

variable (server : Server σ) (surroundings : Surroundings) (config : Option Path)
  (arguments : LoadArguments) (world : World (Session σ))

/-- The settings could be loaded, the directory could be scanned and the connection was made. -/
structure Prepares (ready : Preparation σ) : Prop where
  settings : Settings.load surroundings.formats world.files surroundings.environment config
    arguments.overrides = .ok ready.settings
  files : scan world.files ready.settings.directory = .ok ready.files
  connected : connectTo server surroundings ready.settings world = (.ok (), ready.connected)

/-- Nothing was changed and nothing was inserted: the server was told who is there at most, and has
carried out no further statement. -/
structure Harmless (after : World (Session σ)) : Prop where
  files : after.files = world.files
  greets : Session.Greets world.sink after.sink
  executions : executions after.sink.exchanges = executions world.sink.exchanges

/-- The report was written to its path, if there is one.  `after` is what the file system is then.
-/
def Reported (report : Report) (path : Option String) (files after : FileSystem) : Prop :=
  match path with
  | none => after = files
  | some path => report.write (Path.ofString path) files = (.ok (), after)

/-- What is said about the report when it has been written. -/
def reportLines (path : Option String) : List String :=
  (path.map ("Report written to " ++ ·)).toList

/-- What a run has printed whose report has been written, or is to be written next. -/
def summarized (sweep : Sweep) (report : Report) : List String :=
  sweep.lines ++ ["\n" ++ report.summary]

variable {server surroundings config arguments world}

theorem harmless_of_greets {session : Session σ} (hgreets : Session.Greets world.sink session) :
    Harmless world { world with sink := session } :=
  ⟨rfl, hgreets, hgreets.executions_eq⟩

/-- An attempt to connect leaves the file system alone and exchanges nothing but greetings. -/
theorem harmless_of_connectTo {settings : Settings} {answer : Except Failure Unit}
    {after : World (Session σ)}
    (hconnect : connectTo server surroundings settings world = (answer, after)) :
    Harmless world after := by
  unfold connectTo at hconnect
  split at hconnect
  · cases hconnect
    exact harmless_of_greets (.refl _)
  · next parameters _ =>
    cases hsession :
        world.sink.connect server surroundings.account parameters surroundings.shuffle
          world.files with
    | mk admitted session =>
        have hgreets := Session.connect_greets hsession
        rw [hsession] at hconnect
        cases admitted with
        | error fault =>
            cases hconnect
            exact harmless_of_greets hgreets
        | ok _ =>
            cases hconnect
            exact harmless_of_greets hgreets

/-! ## The end of a run -/

section Conclude

variable {report : Report} {path : Option String} {lines : List String} {swept : World (Session σ)}
  {files : FileSystem}

theorem conclude_of_reported (hreported : Reported report path swept.files files) :
    Run.conclude report path lines swept =
      ⟨report.completeness, lines ++ ["\n" ++ report.summary] ++ reportLines path,
        { swept with files := files }⟩ := by
  cases path with
  | none =>
      obtain rfl : files = swept.files := hreported
      simp [Run.conclude, reportLines]
  | some path =>
      have hwrite : report.write (Path.ofString path) swept.files = (.ok (), files) := hreported
      simp [Run.conclude, hwrite, reportLines]

theorem conclude_of_unwritten {path : String} {fault : IoFault}
    (hwrite : report.write (Path.ofString path) swept.files = (.error fault, files)) :
    Run.conclude report (some path) lines swept =
      Run.failed (.io fault) (lines ++ ["\n" ++ report.summary])
        { swept with files := files } := by
  simp [Run.conclude, hwrite]

/-- A report is written, or there is a fault in writing it. -/
theorem reported_or_unwritten (report : Report) (path : Option String) (files : FileSystem) :
    (∃ after, Reported report path files after) ∨
      ∃ name fault after, path = some name ∧
        report.write (Path.ofString name) files = (.error fault, after) := by
  cases path with
  | none => exact Or.inl ⟨files, rfl⟩
  | some name =>
      cases hwrite : report.write (Path.ofString name) files with
      | mk answer after =>
          cases answer with
          | error fault => exact Or.inr ⟨name, fault, after, rfl, hwrite⟩
          | ok _ => exact Or.inl ⟨after, hwrite⟩

end Conclude

/-- How a run goes on that has got together what it needs. -/
theorem load_of_prepares {ready : Preparation σ}
    (hready : Prepares server surroundings config arguments world ready) :
    Run.load server surroundings config arguments world =
      match (ready.sweep server).1.report surroundings.started surroundings.finished with
      | .error failure =>
          Run.failed failure (ready.sweep server).1.lines (ready.sweep server).2
      | .ok report =>
          Run.conclude report arguments.report (ready.sweep server).1.lines
            (ready.sweep server).2 := by
  unfold Run.load
  rw [hready.settings]
  simp only [loadSources, hready.files, hready.connected]
  rfl

/-- A run that does not get together what it needs does no harm. -/
theorem load_of_unprepared
    (hnever : ∀ ready, ¬ Prepares server surroundings config arguments world ready) :
    ∃ failure after, Run.load server surroundings config arguments world =
      Run.failed failure [] after ∧ Harmless world after := by
  unfold Run.load
  cases hsettings : Settings.load surroundings.formats world.files surroundings.environment
      config arguments.overrides with
  | error failure => exact ⟨failure, world, rfl, harmless_of_greets (.refl _)⟩
  | ok settings =>
      simp only [loadSources]
      cases hscan : scan world.files settings.directory with
      | error failure => exact ⟨failure, world, rfl, harmless_of_greets (.refl _)⟩
      | ok files =>
          simp only
          cases hconnect : connectTo server surroundings settings world with
          | mk answer connected =>
              cases answer with
              | error failure =>
                  exact ⟨failure, connected, rfl, harmless_of_connectTo hconnect⟩
              | ok _ =>
                  exact absurd ⟨hsettings, hscan, hconnect⟩ (hnever ⟨settings, files, connected⟩)

section Ready

variable {ready : Preparation σ}
  (hready : Prepares server surroundings config arguments world ready)

include hready

/-- A failure that stops the sweep ends the run. -/
theorem load_of_stopped {failure : Failure}
    (hstopped : (ready.sweep server).1.stopped = some failure) :
    Run.load server surroundings config arguments world =
      Run.failed failure (ready.sweep server).1.lines (ready.sweep server).2 := by
  rw [load_of_prepares hready]
  simp only [Sweep.report, hstopped]

variable (hthrough : (ready.sweep server).1.stopped = none)

include hthrough

theorem load_of_through :
    Run.load server surroundings config arguments world =
      Run.conclude (ready.report server surroundings) arguments.report (ready.sweep server).1.lines
        (ready.sweep server).2 := by
  rw [load_of_prepares hready]
  simp only [Sweep.report, hthrough]
  rfl

/-- A report that cannot be written ends the run. -/
theorem load_of_unwritten {path : String} (hpath : arguments.report = some path) {fault : IoFault}
    {after : FileSystem}
    (hwrite : (ready.report server surroundings).write (Path.ofString path)
      (ready.sweep server).2.files = (.error fault, after)) :
    Run.load server surroundings config arguments world =
      Run.failed (.io fault) (summarized (ready.sweep server).1 (ready.report server surroundings))
        { (ready.sweep server).2 with files := after } := by
  rw [load_of_through hready hthrough, hpath, conclude_of_unwritten hwrite, summarized]

/-- A run that has written its report ends with what the report says. -/
theorem load_of_reported {after : FileSystem}
    (hreported : Reported (ready.report server surroundings) arguments.report
      (ready.sweep server).2.files after) :
    Run.load server surroundings config arguments world =
      ⟨(ready.report server surroundings).completeness,
        summarized (ready.sweep server).1 (ready.report server surroundings) ++
          reportLines arguments.report,
        { (ready.sweep server).2 with files := after }⟩ := by
  rw [load_of_through hready hthrough, conclude_of_reported hreported, summarized]

end Ready

end Course

end HourlyIngest
