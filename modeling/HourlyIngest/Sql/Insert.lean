import HourlyIngest.Observation
import HourlyIngest.Sql.Identifier

/-!
# The statement that inserts rows

One statement inserts several rows at once.  Its values are placeholders, numbered from 1 row by
row, so that row `r` and column `c`, both counted from 0, is placeholder `16 · r + c + 1`.
-/

namespace HourlyIngest.Sql

/-- The greatest number of values that one statement may take. -/
def maxParameters : Nat := 65535

/-- The greatest number of rows that one statement may insert. -/
def maxBatch : Nat := maxParameters / columnCount

def placeholder (number : Nat) : String :=
  "$" ++ toString number

/-- The placeholders of one row between parentheses. -/
def tuple (row : Nat) : String :=
  "(" ++ ",".intercalate ((List.range columnCount).map fun column =>
    placeholder (row * columnCount + column + 1)) ++ ")"

/-- The columns of the destination, delimited and divided by commas. -/
def columnList : String :=
  ",".intercalate (destinationColumns.map fun column => String.ofList (delimited column.toList))

/-- The statement that inserts a number of rows into a table. -/
def insertStatement (table : String) (rows : Nat) : String :=
  "INSERT INTO " ++ tableName table ++ "(" ++ columnList ++ ") VALUES " ++
    ",".intercalate ((List.range rows).map tuple)

end HourlyIngest.Sql
