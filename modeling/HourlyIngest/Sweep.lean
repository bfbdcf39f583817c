import HourlyIngest.Csv.Contents
import HourlyIngest.Report
import HourlyIngest.Sink
import HourlyIngest.SourceFile

/-!
# Sweeping a directory

A sweep takes the source files of a directory one after the other.  Loading a file means reading
it, handing its rows to a sink, verifying the count that the sink reports, and removing the file.
A file that fails is recorded and the sweep goes on; if it is to stop at the first failure, the
line of the failed file is the last thing that it shows.  Checking a directory only reads.
-/

namespace HourlyIngest

/-- Read the source file at a path. -/
def Contents.ofPath (fs : FileSystem) (path : Path) : Except Failure Contents :=
  match fs.read path with
  | .error fault => .error (.io fault)
  | .ok (some bytes) => Contents.read (fileLabel path) { bytes := bytes }
  | .ok none => Contents.read (fileLabel path) { bytes := [], fault := some .isDirectory }

/-- What a sweep does with the files. -/
structure SweepOptions where
  deleteAfterLoad : Bool := true
  failFast : Bool := false
deriving DecidableEq, Repr

/-- What a sweep leaves behind: an entry and a line for each file that it has taken, and the
failure that has stopped it. -/
structure Sweep where
  entries : List Entry := []
  lines : List String := []
  stopped : Option Failure := none
deriving DecidableEq

namespace Sweep

/-- Put the entry and the line of a file in front of what the files after it leave. -/
def cons (name : String) (outcome : Outcome) (remaining : Nat) (rest : Sweep) : Sweep :=
  { rest with
    entries := ⟨name, outcome⟩ :: rest.entries
    lines := progressLine name outcome remaining :: rest.lines }

/-- The report of a sweep that went through, or the failure that has stopped it. -/
def report (sweep : Sweep) (started finished : TimeStamp) : Except Failure Report :=
  match sweep.stopped with
  | some failure => .error failure
  | none => .ok { started := started, finished := some finished, entries := sweep.entries }

end Sweep

section Load

variable {σ : Type} (sink : Sink σ) (options : SweepOptions)

/-- Remove a file that has been loaded, if that is wanted. -/
def removeLoaded (files : FileSystem) (path : Path) : Except Failure FileSystem :=
  if options.deleteAfterLoad then
    match files.remove path with
    | .ok files => .ok files
    | .error fault => .error (.io fault)
  else .ok files

def loadFile (world : World σ) (file : SourceFile) : Except Failure Outcome × World σ :=
  match Contents.ofPath world.files file.path with
  | .error failure => (.error failure, world)
  | .ok contents =>
      match sink.insert world file.name contents.rows with
      | (.error failure, world) => (.error failure, world)
      | (.ok inserted, world) =>
          match verifyCount file.name contents.rows.length inserted with
          | .error failure => (.error failure, world)
          | .ok rows =>
              match removeLoaded options world.files file.path with
              | .error failure => (.error failure, world)
              | .ok files =>
                  (.ok (.loaded rows options.deleteAfterLoad), { world with files := files })

def loadFiles (world : World σ) : List SourceFile → Sweep × World σ
  | [] => ({}, world)
  | file :: rest =>
      match loadFile sink options world file with
      | (.ok outcome, world) =>
          let (sweep, world) := loadFiles world rest
          (sweep.cons file.name outcome rest.length, world)
      | (.error failure, world) =>
          let outcome := Outcome.failed failure.message
          if options.failFast then
            (Sweep.cons file.name outcome rest.length { stopped := some failure }, world)
          else
            let (sweep, world) := loadFiles world rest
            (sweep.cons file.name outcome rest.length, world)

/-- Load the source files of a directory. -/
def loadDirectory (world : World σ) (directory : Path) : Except Failure (Sweep × World σ) :=
  (scan world.files directory).map (loadFiles sink options world)

end Load

/-- What checking finds in one file. -/
def checkFile (fs : FileSystem) (file : SourceFile) : Outcome :=
  match Contents.ofPath fs file.path with
  | .ok contents =>
      .checked contents.rows.length contents.discardedColumns contents.headerMismatches.length
  | .error failure => .failed failure.message

def checkFiles (fs : FileSystem) : List SourceFile → Sweep
  | [] => {}
  | file :: rest => (checkFiles fs rest).cons file.name (checkFile fs file) rest.length

/-- Check the source files of a directory. -/
def checkDirectory (fs : FileSystem) (directory : Path) : Except Failure Sweep :=
  (scan fs directory).map (checkFiles fs)

end HourlyIngest
