/-!
# Delimited identifiers

A name of a table or a column is put between double quotes, with every quote in it doubled.  A dot
in the name of a table divides it into parts, each of them an identifier of its own.
-/

namespace HourlyIngest.Sql

/-- The text with every double quote written twice. -/
def doubleQuotes : List Char → List Char
  | [] => []
  | c :: rest => if c = '"' then '"' :: '"' :: doubleQuotes rest else c :: doubleQuotes rest

/-- A delimited identifier. -/
def delimited (name : List Char) : List Char :=
  '"' :: (doubleQuotes name ++ ['"'])

/-- The parts of a text between its dots. -/
def splitDots : List Char → List (List Char)
  | [] => [[]]
  | c :: rest =>
      if c = '.' then [] :: splitDots rest
      else
        match splitDots rest with
        | [] => [[c]]
        | part :: parts => (c :: part) :: parts

/-- Texts with a separator between them. -/
def joinWith (separator : Char) : List (List Char) → List Char
  | [] => []
  | [last] => last
  | part :: next :: rest => part ++ separator :: joinWith separator (next :: rest)

/-- The name of a table, which may be divided by dots. -/
def tableName (table : String) : String :=
  String.ofList (joinWith '.' ((splitDots table.toList).map delimited))

end HourlyIngest.Sql
