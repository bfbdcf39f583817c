/-!
# Hourly observations

A source file holds one observation a row, of which the first sixteen columns are wanted.  Cells
are texts; an empty cell of a file is an absent value.  An observation read from a record always
has sixteen values, none of them empty.
-/

namespace HourlyIngest

/-- The columns of the destination table, in the order of the source files. -/
def destinationColumns : List String :=
  ["STATION", "DATE", "SOURCE", "LATITUDE", "LONGITUDE", "ELEVATION", "NAME", "REPORT_TYPE",
    "CALL_SIGN", "QUALITY_CONTROL", "WND", "CIG", "VIS", "TMP", "DEW", "SLP"]

/-- The number of columns that are kept. -/
def columnCount : Nat := 16

/-- A value bound for one column: a text, or nothing. -/
abbrev Cell := Option String

/-- The value of a cell of a source file. -/
def Cell.ofText (text : String) : Cell :=
  if text = "" then none else some text

/-- One row for the destination table. -/
structure Observation where
  values : List Cell
deriving DecidableEq, Repr

namespace Observation

/-- Keep the first sixteen fields of a record; fields that it lacks are absent values. -/
def ofRecord (fields : List String) : Observation :=
  let kept := (fields.take columnCount).map Cell.ofText
  ⟨kept ++ List.replicate (columnCount - kept.length) none⟩

/-- The text in a column, nothing for an absent value or a column that the row does not have. -/
def get? (row : Observation) (column : Nat) : Option String :=
  (row.values[column]?).join

def station (row : Observation) : Option String :=
  row.get? 0

/-- When the observation was made. -/
def date (row : Observation) : Option String :=
  row.get? 1

/-- The number of absent values. -/
def absent (row : Observation) : Nat :=
  row.values.countP Option.isNone

end Observation

end HourlyIngest
