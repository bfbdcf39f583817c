import HourlyIngest.Observation
import HourlyIngest.Text.Utf8

/-!
# Values bound to placeholders

A statement travels apart from its values.  A cell is sent as text, so that the server reads it as
it would read a literal of the type of the column; an absent value is sent as NULL, which has no
bytes at all and is not an empty text.
-/

namespace HourlyIngest.Sql

/-- How the bytes of a value are to be read. -/
inductive Format where
  | text
  | binary
deriving DecidableEq, Repr

/-- What is bound to one placeholder: the bytes of a value, `none` for NULL, and their format. -/
structure Parameter where
  bytes : Option Text.Bytes
  format : Format
deriving DecidableEq, Repr

/-- The parameter that a cell is sent as. -/
def Parameter.ofCell (cell : Cell) : Parameter :=
  ⟨cell.map Text.encode, .text⟩

/-- The parameters of several rows, row by row. -/
def parameters (rows : List Observation) : List Parameter :=
  (rows.flatMap Observation.values).map Parameter.ofCell

end HourlyIngest.Sql
