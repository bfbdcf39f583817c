import HourlyIngest.Proofs.Sql.Statement
import HourlyIngest.Sql.Parameter

/-!
# Values under their placeholders

A server puts the parameters of a request in the places of the placeholders, by their numbers.  For
the statement that inserts rows, sent with the parameters of the same rows, this gives the rows back
(`boundTuples_insertStatement`): the rows are numbered and laid out flat in the same order.
-/

namespace HourlyIngest.Sql

/-- The number of a placeholder. -/
def Token.number? : Token → Option Nat
  | .placeholder number => some number
  | _ => none

/-- The numbers of all placeholders of a statement, from left to right. -/
def placeholders (statement : String) : Option (List Nat) :=
  (tokens statement.toList).map (·.filterMap Token.number?)

/-- The parameter for a placeholder; the numbers begin with 1. -/
def parameterAt? (parameters : List Parameter) (number : Nat) : Option Parameter :=
  if number = 0 then none else parameters[number - 1]?

/-- The tuples that a statement inserts, with the parameters in the places of the placeholders. -/
def boundTuples (statement : String) (parameters : List Parameter) :
    Option (List (List Parameter)) :=
  ((tokens statement.toList).bind valueTuples).bind
    (·.mapM (·.mapM (parameterAt? parameters)))

/-! ## Placeholders and parameters are as many -/

theorem filterMap_number?_intercalate {α : Type} {c : Char} {items : List α}
    {meaning : α → List Token} :
    ([Token.mark c].intercalate (items.map meaning)).filterMap Token.number? =
      items.flatMap fun item => (meaning item).filterMap Token.number? := by
  induction items with
  | nil => rfl
  | cons item rest ih =>
      cases rest with
      | nil => simp
      | cons following rest =>
          rw [List.map_cons] at ih
          rw [List.map_cons, List.map_cons, List.intercalate_cons_cons, List.filterMap_append,
            List.filterMap_append, ih]
          simp [Token.number?]

/-- The placeholders of the statement are those of its tuples. -/
theorem placeholders_insertStatement (table : String) (rows : Nat) :
    placeholders (insertStatement table rows) = some ((List.range rows).flatMap tupleNumbers) := by
  have hhead : (headTokens table).filterMap Token.number? = [] := by
    have hopen : Token.number? (.mark '(') = none := rfl
    rw [headTokens, List.filterMap_append, List.filterMap_append, List.filterMap_cons_none hopen,
      List.filterMap_append, filterMap_number?_intercalate, filterMap_number?_intercalate]
    simp [Token.number?]
  have htuple : ∀ row, (tupleTokens row).filterMap Token.number? = tupleNumbers row := by
    intro row
    rw [tupleTokens, List.filterMap_cons_none rfl, List.filterMap_append,
      filterMap_number?_intercalate]
    simp [Token.number?]
  rw [placeholders, tokens_insertStatement, Option.map_some, insertTokens, List.filterMap_append,
    hhead, List.filterMap_cons_none rfl, filterMap_number?_intercalate]
  simp [htuple]

theorem length_flatMap_tupleNumbers (rows : Nat) :
    ((List.range rows).flatMap tupleNumbers).length = rows * columnCount := by
  simp [List.length_flatMap, tupleNumbers, List.map_const']

theorem length_parameters {rows : List Observation}
    (hwidth : ∀ row ∈ rows, row.values.length = columnCount) :
    (parameters rows).length = rows.length * columnCount := by
  induction rows with
  | nil => rfl
  | cons row rest ih =>
      rw [List.forall_mem_cons] at hwidth
      have hrest := ih hwidth.2
      simp only [parameters, List.flatMap_cons, List.map_append, List.length_append,
        List.length_map, List.length_cons, hwidth.1] at hrest ⊢
      rw [hrest, Nat.add_mul]
      omega

/-! ## The parameters are the values -/

/-- Laid out flat, value `c` of row `r` is at `16 · r + c`. -/
theorem getElem?_flatMap_values {rows : List Observation}
    (hwidth : ∀ row ∈ rows, row.values.length = columnCount) (row : Nat) {column : Nat}
    (hcolumn : column < columnCount) :
    (rows.flatMap Observation.values)[row * columnCount + column]? =
      rows[row]?.bind (·.values[column]?) := by
  induction rows generalizing row with
  | nil => simp
  | cons first rest ih =>
      rw [List.forall_mem_cons] at hwidth
      rw [List.flatMap_cons]
      cases row with
      | zero =>
          rw [List.getElem?_append_left (by omega)]
          simp
      | succ row =>
          -- the first row takes up as many places as there are columns
          rw [List.getElem?_append_right (by rw [Nat.add_mul]; omega)]
          have hindex : (row + 1) * columnCount + column - first.values.length =
              row * columnCount + column := by
            rw [Nat.add_mul]
            omega
          rw [hindex, ih hwidth.2]
          rfl

/-- Looking up one number after the other. -/
theorem mapM_range_eq_some {α : Type} {find : Nat → Option α} {items : List α}
    (hfind : ∀ i < items.length, find i = items[i]?) :
    (List.range items.length).mapM find = some items := by
  induction items generalizing find with
  | nil => rfl
  | cons item rest ih =>
      have hfirst : find 0 = some item := hfind 0 (by simp)
      have hrest : ∀ i < rest.length, (find ∘ Nat.succ) i = rest[i]? := by
        intro i hi
        simpa using hfind (i + 1) (by simpa using hi)
      rw [List.length_cons, List.range_succ_eq_map, List.mapM_cons, hfirst, List.mapM_map,
        ih hrest]
      rfl

/-- **The statement that inserts rows, with the parameters of the rows, inserts the rows.** -/
theorem boundTuples_insertStatement (table : String) {rows : List Observation} (hrows : rows ≠ [])
    (hwidth : ∀ row ∈ rows, row.values.length = columnCount) :
    boundTuples (insertStatement table rows.length) (parameters rows) =
      some (rows.map fun row => row.values.map Parameter.ofCell) := by
  -- first within a row, column by column, and then row by row
  have hone : ∀ row < rows.length, (tupleNumbers row).mapM (parameterAt? (parameters rows)) =
      (rows.map fun row => row.values.map Parameter.ofCell)[row]? := by
    intro row hrow
    have hlength : rows[row].values.length = columnCount := hwidth _ (List.getElem_mem hrow)
    have hfind : ∀ column < (rows[row].values.map Parameter.ofCell).length,
        (parameterAt? (parameters rows) ∘ fun column => row * columnCount + column + 1) column =
          (rows[row].values.map Parameter.ofCell)[column]? := by
      intro column hcolumn
      rw [List.length_map, hlength] at hcolumn
      rw [Function.comp_apply, parameterAt?, if_neg (Nat.succ_ne_zero _), Nat.add_sub_cancel,
        parameters, List.getElem?_map, getElem?_flatMap_values hwidth row hcolumn,
        List.getElem?_eq_getElem hrow, Option.bind_some, List.getElem?_map]
    have hrange := mapM_range_eq_some hfind
    rw [List.length_map, hlength] at hrange
    rw [tupleNumbers, List.mapM_map, hrange, List.getElem?_map, List.getElem?_eq_getElem hrow]
    rfl
  have hall : (List.range rows.length).mapM
      (fun row => (tupleNumbers row).mapM (parameterAt? (parameters rows))) =
        some (rows.map fun row => row.values.map Parameter.ofCell) := by
    rw [← List.length_map (fun row : Observation => row.values.map Parameter.ofCell)]
    exact mapM_range_eq_some (by simpa using hone)
  rw [boundTuples, tokens_insertStatement, Option.bind_some,
    valueTuples_insertTokens table (by simpa using hrows), Option.bind_some, List.mapM_map]
  exact hall

end HourlyIngest.Sql
