import HourlyIngest.Toml.Scalar

/-!
# Tables that stand for dates and times

A date or a time can also be kept as a table whose first key is a marker and whose first value is
its text.  Such a table means the date or time, and whatever else it holds is passed over; a marker
in front of anything that is no date or time makes the document faulty.
-/

namespace HourlyIngest.Toml

/-- The key that marks a table as a date or time. -/
def momentMarker : String := "$__toml_private_datetime"

/-- The date or time that stands behind a marker. -/
def markedMoment? : Toml → Option Toml
  | .string text => readMoment? .kept text.toList
  | _ => none

mutual

/-- A value with the marked tables in it replaced. -/
def unmark? : Toml → Option Toml
  | .string value => some (.string value)
  | .integer value => some (.integer value)
  | .real value => some (.real value)
  | .boolean value => some (.boolean value)
  | .moment spelling => some (.moment spelling)
  | .array items => (unmarkItems? items).map .array
  | .table _ entries => unmarkTable? entries
  | .tables items => (unmarkTables? items).map .array

/-- A table, or the date or time that it means. -/
def unmarkTable? : List (String × Toml) → Option Toml
  | [] => some (.table .standard [])
  | (key, value) :: rest =>
      if key = momentMarker then markedMoment? value
      else
        match unmark? value, unmarkEntries? rest with
        | some value, some rest => some (.table .standard ((key, value) :: rest))
        | _, _ => none

/-- Entries none of which is the first of its table. -/
def unmarkEntries? : List (String × Toml) → Option (List (String × Toml))
  | [] => some []
  | (key, value) :: rest =>
      match unmark? value, unmarkEntries? rest with
      | some value, some rest => some ((key, value) :: rest)
      | _, _ => none

def unmarkItems? : List Toml → Option (List Toml)
  | [] => some []
  | item :: rest =>
      match unmark? item, unmarkItems? rest with
      | some item, some rest => some (item :: rest)
      | _, _ => none

/-- Tables that each have a header. -/
def unmarkTables? : List (List (String × Toml)) → Option (List Toml)
  | [] => some []
  | entries :: rest =>
      match unmarkTable? entries, unmarkTables? rest with
      | some item, some rest => some (item :: rest)
      | _, _ => none

end

end HourlyIngest.Toml
