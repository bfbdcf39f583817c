import HourlyIngest.CommandLine.Parse
import HourlyIngest.Connection
import HourlyIngest.Database.Connect
import HourlyIngest.Database.Writer
import HourlyIngest.Sweep

/-!
# Runs of the program

A run carries out one command.  Each command goes through its steps in a fixed order and ends at
the first one that fails; what has been printed and changed by then stays.  A run that goes through
prints a summary, writes the report that was asked for, and fails all the same if a file failed:
whoever has started it learns from its end alone that not everything has been loaded.
-/

namespace HourlyIngest

open CommandLine Database

/-- What a run finds around it: the variables of its environment, what is read from settings files,
the account that it runs under, the choices that chance makes, and when its sweep begins and ends.
-/
structure Surroundings where
  environment : Environment
  formats : FileFormats
  account : String
  shuffle : Shuffle
  started : TimeStamp
  finished : TimeStamp

/-- What a run leaves behind: how it has ended, what it has printed, each text on a line of its
own, and the world. -/
structure Run (σ : Type) where
  result : Except Failure Unit
  printed : List String := []
  world : World (Session σ)

namespace Run

variable {σ : Type}

/-- Everything that was printed. -/
def output (run : Run σ) : String :=
  String.join (run.printed.map (· ++ "\n"))

/-- A run that has ended with a failure. -/
def failed (failure : Failure) (printed : List String) (world : World (Session σ)) : Run σ :=
  ⟨.error failure, printed, world⟩

end Run

/-! ## Reports -/

/-- Whether all files of a report have been processed. -/
def Report.completeness (report : Report) : Except Failure Unit :=
  if report.isComplete then .ok ()
  else .error (.batchIncomplete report.failed report.entries.length)

/-- Write a report to a path, creating the directories above it.  The file system is given back
also after a fault, with what has been created. -/
def Report.write (report : Report) (path : Path) (fs : FileSystem) :
    Except IoFault Unit × FileSystem :=
  match fs.makeParents path with
  | (.error fault, fs) => (.error fault, fs)
  | (.ok _, fs) =>
      match fs.write path (Text.encode report.text) with
      | .error fault => (.error fault, fs)
      | .ok fs => (.ok (), fs)

/-- End a run whose sweep has gone through: print the summary, write the report if it was asked
for, and see whether it is complete. -/
def Run.conclude {σ : Type} (report : Report) (path : Option String) (printed : List String)
    (world : World (Session σ)) : Run σ :=
  let printed := printed ++ ["\n" ++ report.summary]
  match path with
  | none => ⟨report.completeness, printed, world⟩
  | some path =>
      match report.write (Path.ofString path) world.files with
      | (.error fault, files) => Run.failed (.io fault) printed { world with files := files }
      | (.ok _, files) =>
          ⟨report.completeness, printed ++ ["Report written to " ++ path],
            { world with files := files }⟩

/-! ## Commands -/

/-- The settings that the arguments of the command to load give. -/
def CommandLine.LoadArguments.overrides (arguments : LoadArguments) : Overrides :=
  { sourceDirectory := arguments.sourceDir.map Path.ofString
    databaseUrl := arguments.databaseUrl
    table := arguments.table
    batchSize := arguments.batchSize
    keepFiles := arguments.keepFiles
    failFast := arguments.failFast }

/-- The settings that the command to check gives. -/
def checkOverrides (sourceDir : Option String) : Overrides :=
  { sourceDirectory := sourceDir.map Path.ofString }

/-- The directory that the settings name. -/
def Settings.directory (settings : Settings) : Path :=
  Path.ofString settings.sourceDirectory

/-- How the settings want files to be treated. -/
def Settings.sweepOptions (settings : Settings) : SweepOptions :=
  ⟨settings.deleteAfterLoad, settings.failFast⟩

section Commands

variable {σ : Type} (server : Server σ) (surroundings : Surroundings)

/-- Connect to the database that the settings describe. -/
def connectTo (settings : Settings) (world : World (Session σ)) :
    Except Failure Unit × World (Session σ) :=
  match settings.database.connection with
  | .error failure => (.error failure, world)
  | .ok parameters =>
      match world.sink.connect server surroundings.account parameters surroundings.shuffle
          world.files with
      | (.error fault, session) => (.error (.database fault), { world with sink := session })
      | (.ok _, session) => (.ok (), { world with sink := session })

/-- Sweep the source directory into the database.  The directory is looked at before the connection
is made. -/
def loadSources (settings : Settings) (world : World (Session σ)) :
    Except Failure Sweep × World (Session σ) :=
  match scan world.files settings.directory with
  | .error failure => (.error failure, world)
  | .ok files =>
      match connectTo server surroundings settings world with
      | (.error failure, world) => (.error failure, world)
      | (.ok _, world) =>
          let writer := Writer.ofSize settings.table settings.batchSize
          let (sweep, world) := loadFiles (writer.sink server) settings.sweepOptions world files
          (.ok sweep, world)

def Run.load (config : Option Path) (arguments : LoadArguments) (world : World (Session σ)) :
    Run σ :=
  match Settings.load surroundings.formats world.files surroundings.environment config
      arguments.overrides with
  | .error failure => Run.failed failure [] world
  | .ok settings =>
      match loadSources server surroundings settings world with
      | (.error failure, world) => Run.failed failure [] world
      | (.ok sweep, world) =>
          match sweep.report surroundings.started surroundings.finished with
          | .error failure => Run.failed failure sweep.lines world
          | .ok report => Run.conclude report arguments.report sweep.lines world

def Run.check (config : Option Path) (sourceDir : Option String) (world : World (Session σ)) :
    Run σ :=
  match Settings.load surroundings.formats world.files surroundings.environment config
      (checkOverrides sourceDir) with
  | .error failure => Run.failed failure [] world
  | .ok settings =>
      let opening := ["Checking " ++ settings.sourceDirectory]
      match checkDirectory world.files settings.directory with
      | .error failure => Run.failed failure opening world
      | .ok sweep =>
          match sweep.report surroundings.started surroundings.finished with
          | .error failure => Run.failed failure (opening ++ sweep.lines) world
          | .ok report => Run.conclude report none (opening ++ sweep.lines) world

/-- Begin the log file, if there is to be one. -/
def beginLog (path : Option String) (fs : FileSystem) : Except Failure FileSystem :=
  match path with
  | none => .ok fs
  | some path =>
      match fs.write (Path.ofString path) [] with
      | .ok fs => .ok fs
      | .error fault => .error (.io fault)

def CommandLine.Invocation.run (invocation : Invocation) (world : World (Session σ)) : Run σ :=
  match beginLog invocation.logFile world.files with
  | .error failure => Run.failed failure [] world
  | .ok files =>
      let world := { world with files := files }
      let config := invocation.config.map Path.ofString
      match invocation.command with
      | .load arguments => Run.load server surroundings config arguments world
      | .check sourceDir => Run.check surroundings config sourceDir world

end Commands

end HourlyIngest
