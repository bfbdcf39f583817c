import HourlyIngest.Csv.Record
import HourlyIngest.FileSystem.Fault

/-!
# Faults of a source file's bytes
-/

namespace HourlyIngest

/-- Why the records of a file could not be read. -/
inductive CsvFault where
  /-- The bytes could not be had. -/
  | unreadable (fault : IoFault)
  /-- A cell of a record is no UTF-8 text; `offset` is counted from the beginning of the cell. -/
  | notText (number : Nat) (start : Csv.Place) (cell : Nat) (offset : Nat)
deriving DecidableEq, Repr

def CsvFault.message : CsvFault → String
  | .unreadable fault => fault.message
  | .notText number start cell offset =>
      "CSV parse error: record " ++ toString number ++ " (line " ++ toString start.line ++
        ", field: " ++ toString cell ++ ", byte: " ++ toString start.byte ++
        "): invalid utf-8: invalid UTF-8 in field " ++ toString cell ++ " near byte index " ++
        toString offset

end HourlyIngest
