import HourlyIngest.Proofs.Sql.Binding
import HourlyIngest.Proofs.Sql.Name

/-!
# The layout of the insert statement

Read as SQL, the statement for a table and a number of rows consists of the words, the parts of the
name, the columns and the tuples of placeholders that it is meant to have, and of nothing else; the
placeholders are numbered through from the first to the last (`flatMap_tupleNumbers`); and the table
and the number of rows can be read off the tokens again (`readInsert_insertStatement`).  The name of
the table, whatever it contains, is no more than the identifiers in front of the first parenthesis.
-/

namespace HourlyIngest.Sql

/-- Tokens between parentheses, with commas between them. -/
def parenthesized (items : List Token) : List Token :=
  .mark '(' :: ([.mark ','].intercalate (items.map fun item => [item]) ++ [.mark ')'])

/-! ## Placeholders -/

theorem tupleTokens_eq (row : Nat) :
    tupleTokens row =
      parenthesized ((List.range 16).map fun column => .placeholder (16 * row + column + 1)) := by
  rw [tupleTokens, tupleNumbers, parenthesized, List.map_map, List.map_map, columnCount,
    Nat.mul_comm row]
  rfl

/-- The placeholders of all tuples are numbered through. -/
theorem flatMap_tupleNumbers (rows : Nat) :
    (List.range rows).flatMap tupleNumbers = (List.range (16 * rows)).map (· + 1) := by
  induction rows with
  | zero => rfl
  | succ rows ih =>
      have hlast : tupleNumbers rows = ((List.range 16).map (16 * rows + ·)).map (· + 1) := by
        rw [tupleNumbers, List.map_map, columnCount, Nat.mul_comm rows]
        rfl
      rw [List.range_succ, List.flatMap_append, ih, List.flatMap_singleton, hlast, Nat.mul_add,
        List.range_add, List.map_append]

/-! ## What the tokens tell -/

/-- The name of an identifier. -/
def Token.name? : Token → Option (List Char)
  | .identifier name => some name
  | _ => none

/-- The table that a statement inserts into: the identifiers in front of the first parenthesis,
with dots between them. -/
def tableOf (read : List Token) : String :=
  String.ofList (['.'].intercalate
    ((read.takeWhile (· != .mark '(')).filterMap Token.name?))

/-- The number of rows that a statement inserts, by its placeholders. -/
def rowsOf (read : List Token) : Nat :=
  (read.filterMap Token.number?).length / columnCount

/-- The table and the number of rows of a statement. -/
def readInsert (statement : String) : Option (String × Nat) :=
  (tokens statement.toList).map fun read => (tableOf read, rowsOf read)

/-- Without the marks, the tokens of a name are its parts. -/
theorem filterMap_name?_intercalate (parts : List (List Char)) :
    ([Token.mark '.'].intercalate (parts.map fun part => [Token.identifier part])).filterMap
      Token.name? = parts := by
  induction parts with
  | nil => rfl
  | cons part rest ih =>
      cases rest with
      | nil => rfl
      | cons following rest =>
          rw [List.map_cons] at ih
          rw [List.map_cons, List.map_cons, List.intercalate_cons_cons, List.filterMap_append,
            List.filterMap_append, ih]
          rfl

/-- The tokens of the name of a table. -/
def nameTokens (table : String) : List Token :=
  [.mark '.'].intercalate ((table.toList.splitOn '.').map fun part => [Token.identifier part])

theorem insertTokens_eq (table : String) (rows : Nat) :
    insertTokens table rows =
      [.word "INSERT".toList, .word "INTO".toList] ++ nameTokens table ++
        parenthesized (destinationColumns.map fun column => .identifier column.toList) ++
          [.word "VALUES".toList] ++
            [.mark ','].intercalate ((List.range rows).map fun row =>
              parenthesized ((List.range 16).map fun column =>
                .placeholder (16 * row + column + 1))) := by
  have htuples : (List.range rows).map tupleTokens = (List.range rows).map fun row =>
      parenthesized ((List.range 16).map fun column => .placeholder (16 * row + column + 1)) :=
    List.map_congr_left fun row _ => tupleTokens_eq row
  rw [insertTokens, headTokens, htuples, nameTokens, splitDots_eq_splitOn]
  simp only [parenthesized, List.map_map, Function.comp_def, List.append_assoc,
    List.cons_append, List.nil_append]

theorem tableOf_insertTokens (table : String) (rows : Nat) :
    tableOf (insertTokens table rows) = table := by
  have hname : ∀ token ∈ [.word "INSERT".toList, .word "INTO".toList] ++ nameTokens table,
      (token != Token.mark '(') = true := by
    intro token htoken
    rw [bne_iff_ne]
    rintro rfl
    rcases List.mem_append.mp htoken with hwords | hparts
    · exact absurd hwords (by decide)
    · obtain ⟨part, hpart, hmem⟩ := (mem_intercalate_iff (by decide)).mp hparts
      obtain ⟨name, -, rfl⟩ := List.mem_map.mp hpart
      simp at hmem
  have htake : (insertTokens table rows).takeWhile (· != .mark '(') =
      [.word "INSERT".toList, .word "INTO".toList] ++ nameTokens table := by
    rw [insertTokens_eq, List.append_assoc _ (parenthesized _), List.append_assoc _ (_ ++ _),
      List.takeWhile_append_of_pos hname, parenthesized, List.cons_append, List.cons_append]
    simp
  have hwords : [Token.word "INSERT".toList, .word "INTO".toList].filterMap Token.name? = [] := rfl
  rw [tableOf, htake, List.filterMap_append, hwords, nameTokens, filterMap_name?_intercalate,
    List.nil_append, List.intercalate_splitOn, String.ofList_toList]

theorem placeholders_eq_range (table : String) (rows : Nat) :
    placeholders (insertStatement table rows) = some ((List.range (16 * rows)).map (· + 1)) := by
  rw [placeholders_insertStatement, flatMap_tupleNumbers]

theorem rowsOf_insertTokens (table : String) (rows : Nat) :
    rowsOf (insertTokens table rows) = rows := by
  have hnumbers := placeholders_eq_range table rows
  rw [placeholders, tokens_insertStatement, Option.map_some, Option.some.injEq] at hnumbers
  rw [rowsOf, hnumbers, List.length_map, List.length_range, columnCount]
  omega

theorem readInsert_insertStatement (table : String) (rows : Nat) :
    readInsert (insertStatement table rows) = some (table, rows) := by
  rw [readInsert, tokens_insertStatement, Option.map_some, tableOf_insertTokens,
    rowsOf_insertTokens]

/-- **The statement is what it is meant to be, whatever the table is called.**  Its tokens are the
words INSERT INTO, the parts of the name with dots between them, the sixteen columns in parentheses,
the word VALUES, and as many tuples as there are rows, tuple `r` being the placeholders
`16 · r + 1` to `16 · r + 16`.  From left to right the placeholders are numbered from 1 on, and the
table and the number of rows can be read off the text. -/
theorem layout_insertStatement (table : String) (rows : Nat) :
    tokens (insertStatement table rows).toList =
        some ([.word "INSERT".toList, .word "INTO".toList] ++
          [.mark '.'].intercalate ((table.toList.splitOn '.').map fun part =>
            [Token.identifier part]) ++
            parenthesized (destinationColumns.map fun column => .identifier column.toList) ++
              [.word "VALUES".toList] ++
                [.mark ','].intercalate ((List.range rows).map fun row =>
                  parenthesized ((List.range 16).map fun column =>
                    .placeholder (16 * row + column + 1)))) ∧
      placeholders (insertStatement table rows) = some ((List.range (16 * rows)).map (· + 1)) ∧
        readInsert (insertStatement table rows) = some (table, rows) := by
  refine ⟨?_, placeholders_eq_range table rows, readInsert_insertStatement table rows⟩
  rw [tokens_insertStatement, insertTokens_eq, nameTokens]

end HourlyIngest.Sql
