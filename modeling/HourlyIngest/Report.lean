import HourlyIngest.Json.Writer
import HourlyIngest.TimeStamp

/-!
# The report of a run

A run over a list of files leaves one entry for each file, in order, and the times at which it began
and ended.  The report can be summed up in a few lines for the console, or written out whole
as JSON.
-/

namespace HourlyIngest

/-- What became of one file. -/
inductive Outcome where
  /-- Its rows were committed. -/
  | loaded (rows : Nat) (deleted : Bool)
  /-- It was read, and nothing else was done. -/
  | checked (rows discardedColumns headerMismatches : Nat)
  /-- It could not be processed. -/
  | failed (error : String)
deriving DecidableEq, Repr

namespace Outcome

def isLoaded : Outcome → Bool
  | loaded _ _ => true
  | _ => false

def isChecked : Outcome → Bool
  | checked _ _ _ => true
  | _ => false

def isFailed : Outcome → Bool
  | failed _ => true
  | _ => false

def isDeleted : Outcome → Bool
  | loaded _ deleted => deleted
  | _ => false

/-- The number of rows that were committed. -/
def rowsLoaded : Outcome → Nat
  | loaded rows _ => rows
  | _ => 0

/-- An outcome as a JSON object, the kind of outcome first. -/
def toJson : Outcome → Json
  | loaded rows deleted =>
      .object [("status", .string "loaded"), ("rows", .ofNat rows), ("deleted", .boolean deleted)]
  | checked rows discardedColumns headerMismatches =>
      .object [("status", .string "checked"), ("rows", .ofNat rows),
        ("discarded_columns", .ofNat discardedColumns),
        ("header_mismatches", .ofNat headerMismatches)]
  | failed error => .object [("status", .string "failed"), ("error", .string error)]

end Outcome

/-- The line on the console after a file, with the number of files still to come. -/
def progressLine (name : String) (outcome : Outcome) (remaining : Nat) : String :=
  (match outcome with
    | .loaded _ true => "Loaded & deleted " ++ name
    | .loaded _ false => "Loaded " ++ name
    | .checked rows discardedColumns headerMismatches =>
        "Checked " ++ name ++ " (" ++ toString rows ++ " rows, " ++ toString discardedColumns ++
          " columns discarded, " ++ toString headerMismatches ++ " header mismatches)"
    | .failed error => "Failed " ++ name ++ ": " ++ error) ++
    "; Remaining: " ++ toString remaining

structure Entry where
  name : String
  outcome : Outcome
deriving DecidableEq, Repr

structure Report where
  started : TimeStamp
  finished : Option TimeStamp := none
  entries : List Entry := []
deriving DecidableEq, Repr

namespace Report

def record (report : Report) (name : String) (outcome : Outcome) : Report :=
  { report with entries := report.entries ++ [⟨name, outcome⟩] }

def finish (report : Report) (stamp : TimeStamp) : Report :=
  { report with finished := some stamp }

/-- The number of files whose outcome has a property. -/
def count (report : Report) (property : Outcome → Bool) : Nat :=
  report.entries.countP fun entry => property entry.outcome

def loaded (report : Report) : Nat := report.count Outcome.isLoaded

def checked (report : Report) : Nat := report.count Outcome.isChecked

def failed (report : Report) : Nat := report.count Outcome.isFailed

def deleted (report : Report) : Nat := report.count Outcome.isDeleted

/-- The number of rows that were committed. -/
def rows (report : Report) : Nat :=
  report.entries.foldr (fun entry rows => entry.outcome.rowsLoaded + rows) 0

/-- No file failed. -/
def isComplete (report : Report) : Bool :=
  report.failed == 0

/-! ## The summary -/

/-- The lines on what was done.  A report that has checked files does not mention loading. -/
def countLines (report : Report) : List String :=
  if 0 < report.checked then ["Checked: " ++ toString report.checked]
  else
    ["Loaded: " ++ toString report.loaded, "Deleted: " ++ toString report.deleted,
      "Rows inserted: " ++ toString report.rows]

/-- The line on how long the run took, once it has ended. -/
def elapsedLines (report : Report) : List String :=
  match report.finished with
  | some finished =>
      ["Elapsed: " ++
        Instant.secondsText (report.started.instant.millisecondsUntil finished.instant) ++ "s"]
  | none => []

def failureLine? (entry : Entry) : Option String :=
  match entry.outcome with
  | .failed error => some ("  " ++ entry.name ++ ": " ++ error)
  | _ => none

/-- The block on the failed files, where there are any. -/
def failureLines (report : Report) : List String :=
  if report.isComplete then []
  else "" :: "Failed files:" :: report.entries.filterMap failureLine?

def summaryLines (report : Report) : List String :=
  ["=== Load Summary ===", "CSV files: " ++ toString report.entries.length] ++
    report.countLines ++ ["Failed: " ++ toString report.failed] ++ report.elapsedLines ++
    report.failureLines

/-- The summary, each line with its line break. -/
def summary (report : Report) : String :=
  String.join (report.summaryLines.map (· ++ "\n"))

/-! ## The report as JSON -/

def entryJson (entry : Entry) : Json :=
  .object [("name", .string entry.name), ("outcome", entry.outcome.toJson)]

def toJson (report : Report) : Json :=
  .object
    [("started_at", .string report.started.text),
      ("finished_at", Json.ofOption (fun stamp => .string stamp.text) report.finished),
      ("files", .array (report.entries.map entryJson))]

/-- The text of the report file. -/
def text (report : Report) : String :=
  report.toJson.pretty

end Report

end HourlyIngest
