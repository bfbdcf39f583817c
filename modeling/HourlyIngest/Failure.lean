import HourlyIngest.Csv.Fault
import HourlyIngest.Database.Fault
import HourlyIngest.Setting.Fault

/-!
# Failures

Everything that can go wrong with a file or with a run, and its wording.  A failure of a single
file is recorded with this wording; a failure of a run is what the run answers.
-/

namespace HourlyIngest

/-- Why a file or a run failed. -/
inductive Failure where
  | io (fault : IoFault)
  | csv (fault : CsvFault)
  | database (fault : DatabaseFault)
  | settings (fault : SettingFault)
  | violations (broken : List Violation)
  /-- A setting whose text cannot be used, or any failure known by its text alone. -/
  | invalidSetting (text : String)
  | directoryNotFound (path : Text.Bytes)
  | columnCount (file : String) (found expected : Nat)
  | malformedRow (file : String) (line : Nat) (text : String)
  | rowCountMismatch (file : String) (expected inserted : Nat)
  | batchIncomplete (failed total : Nat)
  /-- A JSON value that has another form than was wanted. -/
  | json (text : String)
deriving DecidableEq

def Failure.message : Failure → String
  | .io fault => "File I/O error: " ++ fault.message
  | .csv fault => "CSV parsing error: " ++ fault.message
  | .database fault => "Database error: " ++ fault.message
  | .settings fault => "Configuration error: " ++ fault.message
  | .violations broken =>
      "Validation error: " ++ "\n".intercalate (broken.map Violation.message)
  | .invalidSetting text => "Invalid configuration: " ++ text
  | .directoryNotFound path => "Source directory not found: " ++ Text.lossy path
  | .columnCount file found expected =>
      file ++ " has " ++ toString found ++ " columns, at least " ++ toString expected ++
        " are required"
  | .malformedRow file line text => file ++ " line " ++ toString line ++ ": " ++ text
  | .rowCountMismatch file expected inserted =>
      file ++ ": read " ++ toString expected ++ " rows but the database reported " ++
        toString inserted ++ " inserted"
  | .batchIncomplete failed total =>
      toString failed ++ " of " ++ toString total ++ " files could not be processed"
  | .json text => "Report serialization error: " ++ text

end HourlyIngest
