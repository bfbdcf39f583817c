import HourlyIngest.Run
import Std.Time.Zoned

/-!
# The program

The outer layer: it takes a command line, looks at those parts of the real file system that the run
may touch, leaves the run itself to `Invocation.run`, and then makes the run's changes real and
prints what it has printed.  No database server can be reached from here, so that loading ends
where the connection is made.
-/

namespace HourlyIngest.Program

open CommandLine Database

/-! ## Looking at the file system -/

def placeText (place : Location) : String :=
  "/" ++ "/".intercalate (place.map Text.lossy)

/-- The place that a text leads to if no name on the way is a link. -/
def plainPlace (working : Location) (path : String) : Location :=
  let bytes := Path.ofString path
  (Path.names bytes).foldl
    (fun place name =>
      if name = Path.dot then place
      else if name = Path.dotDot then place.dropLast
      else place ++ [name])
    (if Path.isAbsolute bytes then [] else working)

/-- What really stands at a place.  A link is taken to lead to where the chain that it begins
ends. -/
def look (place : Location) : IO (Option Node) := do
  let path := (← IO.currentDir) / placeText place
  match ← path.symlinkMetadata.toBaseIO with
  | .error _ => return none
  | .ok data =>
      match data.type with
      | .dir => return some .directory
      | .file =>
          match ← (IO.FS.readBinFile path).toBaseIO with
          | .ok content => return some (.file content.toList)
          | .error _ => return none
      | .symlink =>
          match ← (IO.FS.realPath path).toBaseIO with
          | .ok target => return some (.link (Path.ofString target.toString))
          | .error _ => return some (.link [])
      | .other => return none

/-- Take up everything that stands on the way to a place. -/
def surveyPlace (files : FileSystem) (place : Location) : IO FileSystem := do
  let mut files := files
  for length in List.range place.length do
    let here := place.take (length + 1)
    if let some node ← look here then
      files := files.put here node
  return files

/-- Take up everything on the way along a path, with and without links. -/
def survey (files : FileSystem) (path : String) : IO FileSystem := do
  let place := plainPlace files.working path
  let files ← surveyPlace files place
  match ← (IO.FS.realPath (placeText place)).toBaseIO with
  | .ok target => surveyPlace files (plainPlace [] target.toString)
  | .error _ => return files

/-- Take up a directory with what stands in it. -/
def surveyDirectory (files : FileSystem) (path : String) : IO FileSystem := do
  let mut files ← survey files path
  if let .ok (place, .directory) := files.lookup .node (Path.ofString path) then
    let directory := (← IO.currentDir) / placeText place
    for child in ← directory.readDir do
      files ← survey files (placeText (place ++ [Text.encode child.fileName]))
  return files

/-! ## Surroundings -/

def readEnvironment : IO Environment := do
  match ← (IO.FS.readBinFile "/proc/self/environ").toBaseIO with
  | .error _ => return []
  | .ok content =>
      return ((Text.lossy content.toList).splitOn "\x00").filterMap fun entry =>
        match entry.splitOn "=" with
        | name :: value :: more => some (name, "=".intercalate (value :: more))
        | _ => none

/-- The distance of the local clock from universal time.  Where nothing is known of it, there is
none. -/
def localOffset (now : Std.Time.Timestamp) : IO Offset := do
  match ← Std.Time.Database.defaultGetLocalZoneRules.toBaseIO with
  | .error _ => return .universal
  | .ok rules =>
      let seconds := (rules.timezoneAt now).offset.second.val
      if hday : -86400 < seconds ∧ seconds < 86400 then return ⟨seconds, hday.1, hday.2⟩
      else return .universal

def now : IO TimeStamp := do
  let timestamp ← Std.Time.Timestamp.now
  let elapsed := timestamp.toNanosecondsSinceUnixEpoch.val
  let instant := ⟨elapsed / 1000000000, (elapsed % 1000000000).toNat⟩
  return ⟨instant, ← localOffset timestamp⟩

/-- The parts of the file system that a command line may touch, and its surroundings. -/
def prepare (invocation : Invocation) : IO (FileSystem × Surroundings) := do
  let started ← now
  let environment ← readEnvironment
  let working := plainPlace [] (← IO.currentDir).toString
  let mut files ← surveyPlace { entries := [], working := working } working
  let settingsFile := invocation.config.getD (Text.lossy Settings.defaultFile)
  for ending in FileFormat.all.flatMap FileFormat.endings do
    files ← survey files (settingsFile ++ "." ++ Text.lossy ending)
  files ← survey files settingsFile
  if let some path := invocation.logFile then files ← survey files path
  let overrides :=
    match invocation.command with
    | .load arguments => arguments.overrides
    | .check sourceDir => checkOverrides sourceDir
  if let .load { report := some path, .. } := invocation.command then
    files ← survey files path
  let config := invocation.config.map Path.ofString
  if let .ok settings := Settings.load .plain files environment config overrides then
    files ← surveyDirectory files settings.sourceDirectory
  let account := (← IO.getEnv "USER").getD "postgres"
  return (files, ⟨environment, .plain, account, .still, started, ← now⟩)

/-! ## Carrying out -/

/-- Make the changes between two states of the file system real. -/
def apply (before after : FileSystem) : IO Unit := do
  for (place, _) in before.entries do
    if (after.node? place).isNone then IO.FS.removeFile (placeText place)
  for (place, node) in after.entries do
    unless before.node? place = some node do
      match node with
      | .directory => IO.FS.createDir (placeText place)
      | .file bytes => IO.FS.writeBinFile (placeText place) (ByteArray.mk bytes.toArray)
      | .link _ => pure ()

/-- A server that nobody can reach. -/
def nowhere : Server Unit :=
  .atSockets [] fun state _ => (.hangup, state)

/-- Carry out a command line.  The answer is the exit code. -/
def carryOut (invocation : Invocation) : IO UInt32 := do
  let (files, surroundings) ← prepare invocation
  let run := invocation.run nowhere surroundings { sink := { server := () }, files := files }
  apply files run.world.files
  IO.print run.output
  match run.result with
  | .ok _ => return 0
  | .error failure =>
      IO.eprintln ("Error: " ++ failure.message)
      return 1

/-- Show what a command line that is not carried out has earned. -/
def explain (fault : UsageFault) : IO UInt32 := do
  if fault.exitCode = 0 then IO.print fault.message else IO.eprintln fault.message
  return UInt32.ofNat fault.exitCode

end HourlyIngest.Program

/-- The program.  Its arguments are those of the command line. -/
def main (arguments : List String) : IO UInt32 :=
  match HourlyIngest.CommandLine.Invocation.parse arguments with
  | .ok invocation => HourlyIngest.Program.carryOut invocation
  | .error fault => HourlyIngest.Program.explain fault
