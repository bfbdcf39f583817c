import HourlyIngest.Proofs.Sql.Token
import HourlyIngest.Sql.Insert

/-!
# What the insert statement says

Read as SQL, the statement that inserts rows is what it is meant to be, whatever the name of the
table (`tokens_insertStatement`): behind the word VALUES stand as many tuples as there are rows, and
the placeholders in them are numbered row by row (`valueTuples_insertTokens`).  The statement has a
character that no message to a server may have exactly if the name of the table has it
(`zero_mem_insertStatement_iff`).
-/

namespace HourlyIngest.Sql

/-! ## The text as a list of characters -/

theorem mem_intercalate_iff {α : Type} {x separator : α} (hne : x ≠ separator)
    {parts : List (List α)} : x ∈ [separator].intercalate parts ↔ ∃ part ∈ parts, x ∈ part := by
  induction parts with
  | nil => simp
  | cons part rest ih =>
      cases rest with
      | nil => simp
      | cons following rest =>
          rw [List.intercalate_cons_cons, List.append_assoc, List.mem_append, List.mem_append, ih]
          simp [hne]

theorem joinWith_eq_intercalate (separator : Char) (parts : List (List Char)) :
    joinWith separator parts = [separator].intercalate parts := by
  induction parts with
  | nil => rfl
  | cons part rest ih =>
      cases rest with
      | nil => simp [joinWith]
      | cons following rest =>
          rw [joinWith, ih]
          simp [List.intercalate, List.intersperse]

theorem toList_tableName (table : String) :
    (tableName table).toList = ['.'].intercalate ((splitDots table.toList).map delimited) := by
  rw [tableName, String.toList_ofList, joinWith_eq_intercalate]

theorem toList_columnList :
    columnList.toList =
      [','].intercalate (destinationColumns.map fun column => delimited column.toList) := by
  rw [columnList, String.toList_intercalate, List.map_map]
  simp [Function.comp_def]

/-- A placeholder as a list of characters. -/
def placeholderText (number : Nat) : List Char :=
  '$' :: Nat.toDigits 10 number

theorem toList_placeholder (number : Nat) :
    (placeholder number).toList = placeholderText number := by
  rw [placeholder, String.toList_append, Nat.toString_eq_repr, Nat.toList_repr]
  rfl

/-- The numbers of the placeholders of a row. -/
def tupleNumbers (row : Nat) : List Nat :=
  (List.range columnCount).map fun column => row * columnCount + column + 1

/-- The placeholders of a row as a list of characters. -/
def tupleText (row : Nat) : List Char :=
  '(' :: ([','].intercalate ((tupleNumbers row).map placeholderText) ++ [')'])

theorem toList_tuple (row : Nat) : (tuple row).toList = tupleText row := by
  rw [tuple, String.toList_append, String.toList_append, String.toList_intercalate, List.map_map,
    tupleText, tupleNumbers, List.map_map]
  simp [Function.comp_def, toList_placeholder]

/-- The statement in its parts. -/
theorem toList_insertStatement (table : String) (rows : Nat) :
    (insertStatement table rows).toList =
      "INSERT INTO ".toList ++ ((tableName table).toList ++ ("(".toList ++ (columnList.toList ++
        (") VALUES ".toList ++ [','].intercalate ((List.range rows).map tupleText))))) := by
  have htuples : (",".intercalate ((List.range rows).map tuple)).toList =
      [','].intercalate ((List.range rows).map tupleText) := by
    rw [String.toList_intercalate, List.map_map]
    simp [Function.comp_def, toList_tuple]
  delta insertStatement
  simp only [String.toList_append, htuples, List.append_assoc]

/-! ## The tokens of the statement -/

/-- The tokens of a row of placeholders. -/
def tupleTokens (row : Nat) : List Token :=
  .mark '(' :: ([.mark ','].intercalate ((tupleNumbers row).map fun number =>
    [Token.placeholder number]) ++ [.mark ')'])

/-- The tokens in front of the tuples. -/
def headTokens (table : String) : List Token :=
  [.word "INSERT".toList, .word "INTO".toList] ++
    ([.mark '.'].intercalate ((splitDots table.toList).map fun part => [Token.identifier part]) ++
      (.mark '(' :: ([.mark ','].intercalate (destinationColumns.map fun column =>
        [Token.identifier column.toList]) ++ [.mark ')'])))

/-- The tokens of the statement that inserts a number of rows. -/
def insertTokens (table : String) (rows : Nat) : List Token :=
  headTokens table ++ .word "VALUES".toList ::
    [.mark ','].intercalate ((List.range rows).map tupleTokens)

theorem reads_tupleText (row : Nat) : ReadsClosed (tupleText row) (tupleTokens row) := by
  have hopen : ReadsClosed ['('] [.mark '('] := readsClosed_mark rfl rfl
  have hclose : ReadsClosed [')'] [.mark ')'] := readsClosed_mark rfl rfl
  have hplaceholders := reads_intercalate (c := ',') rfl rfl
    fun number (_ : number ∈ tupleNumbers row) => reads_placeholder number
  exact hopen.append_closed (hplaceholders.append_closed rfl rfl hclose)

/-- The statement reads as what it is meant to be, whatever the name of the table. -/
theorem tokens_insertStatement (table : String) (rows : Nat) :
    tokens (insertStatement table rows).toList = some (insertTokens table rows) := by
  have hinsert : ReadsClosed "INSERT INTO ".toList
      [.word "INSERT".toList, .word "INTO".toList] := by
    have hfirst : ReadsClosed "INSERT ".toList [.word "INSERT".toList] :=
      readsClosed_word 'I' "NSERT".toList rfl rfl
    have hsecond : ReadsClosed "INTO ".toList [.word "INTO".toList] :=
      readsClosed_word 'I' "NTO".toList rfl rfl
    exact hfirst.append_closed hsecond
  have htable : Reads (tableName table).toList ([.mark '.'].intercalate
      ((splitDots table.toList).map fun part => [Token.identifier part])) := by
    rw [toList_tableName]
    exact reads_intercalate rfl rfl fun part _ => reads_delimited part
  have hopen : ReadsClosed "(".toList [.mark '('] := readsClosed_mark rfl rfl
  have hcolumns : Reads columnList.toList ([.mark ','].intercalate
      (destinationColumns.map fun column => [Token.identifier column.toList])) := by
    rw [toList_columnList]
    exact reads_intercalate rfl rfl fun column _ => reads_delimited column.toList
  have hvalues : ReadsClosed ") VALUES ".toList [.mark ')', .word "VALUES".toList] := by
    have hclose : ReadsClosed ") ".toList [.mark ')'] :=
      (readsClosed_mark rfl rfl).append_closed (readsClosed_blank rfl)
    have hword : ReadsClosed "VALUES ".toList [.word "VALUES".toList] :=
      readsClosed_word 'V' "ALUES".toList rfl rfl
    exact hclose.append_closed hword
  have htuples : Reads ([','].intercalate ((List.range rows).map tupleText))
      ([.mark ','].intercalate ((List.range rows).map tupleTokens)) :=
    reads_intercalate rfl rfl fun row _ => (reads_tupleText row).reads
  have hhead := (htable.append_closed rfl rfl hopen).append_closed
    (hcolumns.append_closed rfl rfl hvalues)
  have htokens := ((hinsert.append_closed hhead).append htuples).tokens_eq
  rw [toList_insertStatement, insertTokens, headTokens]
  simpa only [List.append_assoc, List.cons_append, List.nil_append] using htokens

/-! ## The tuples of a statement -/

/-- The numbers in tuples of placeholders.  The first parenthesis has been read already. -/
def readTuples : List Token → Option (List (List Nat))
  | [.placeholder number, .mark ')'] => some [[number]]
  | .placeholder number :: .mark ')' :: .mark ',' :: .mark '(' :: rest =>
      (readTuples rest).map ([number] :: ·)
  | .placeholder number :: .mark ',' :: rest =>
      match readTuples rest with
      | some (tuple :: tuples) => some ((number :: tuple) :: tuples)
      | _ => none
  | _ => none

/-- The numbers of the placeholders in the tuples behind the word VALUES. -/
def valueTuples (read : List Token) : Option (List (List Nat)) :=
  match read.dropWhile (· != .word "VALUES".toList) with
  | _ :: .mark '(' :: rest => readTuples rest
  | _ => none

/-- The placeholders of a tuple without its first parenthesis. -/
def closingTokens (numbers : List Nat) : List Token :=
  [.mark ','].intercalate (numbers.map fun number => [Token.placeholder number]) ++ [.mark ')']

theorem closingTokens_cons_cons (number following : Nat) (rest : List Nat) :
    closingTokens (number :: following :: rest) =
      .placeholder number :: .mark ',' :: closingTokens (following :: rest) := by
  simp [closingTokens, List.intercalate]

theorem readTuples_last {numbers : List Nat} (hne : numbers ≠ []) :
    readTuples (closingTokens numbers) = some [numbers] := by
  induction numbers with
  | nil => exact absurd rfl hne
  | cons number rest ih =>
      cases rest with
      | nil => rfl
      | cons following rest =>
          have hrest := ih (by simp)
          rw [closingTokens_cons_cons, readTuples, hrest]

theorem readTuples_next {numbers : List Nat} (hne : numbers ≠ []) (later : List Token) :
    readTuples (closingTokens numbers ++ .mark ',' :: .mark '(' :: later) =
      (readTuples later).map (numbers :: ·) := by
  induction numbers with
  | nil => exact absurd rfl hne
  | cons number rest ih =>
      cases rest with
      | nil => rfl
      | cons following rest =>
          have hrest := ih (by simp)
          rw [closingTokens_cons_cons, List.cons_append, List.cons_append, readTuples, hrest]
          cases readTuples later with
          | none => rfl
          | some tuples => rfl

/-- Tuples with commas between them read as their numbers. -/
theorem readTuples_intercalate {tuples : List (List Nat)} (hne : tuples ≠ [])
    (hall : ∀ tuple ∈ tuples, tuple ≠ []) :
    ∃ later, [.mark ','].intercalate (tuples.map fun tuple => .mark '(' :: closingTokens tuple) =
      .mark '(' :: later ∧ readTuples later = some tuples := by
  induction tuples with
  | nil => exact absurd rfl hne
  | cons tuple rest ih =>
      rw [List.forall_mem_cons] at hall
      cases rest with
      | nil => exact ⟨closingTokens tuple, by simp, readTuples_last hall.1⟩
      | cons following rest =>
          obtain ⟨later, htokens, hread⟩ := ih (by simp) hall.2
          refine ⟨closingTokens tuple ++ .mark ',' :: .mark '(' :: later, ?_, ?_⟩
          · rw [List.map_cons] at htokens
            rw [List.map_cons, List.map_cons, List.intercalate_cons_cons, htokens]
            simp
          · rw [readTuples_next hall.1, hread]
            rfl

theorem ne_values_of_mem_headTokens {table : String} {token : Token}
    (htoken : token ∈ headTokens table) : token ≠ .word "VALUES".toList := by
  rintro rfl
  -- the only words of the head are the first two; the names are identifiers, whatever they say
  rcases List.mem_append.mp htoken with hwords | hrest
  · exact absurd hwords (by decide)
  rcases List.mem_append.mp hrest with htable | hrest
  · obtain ⟨part, hpart, hmem⟩ := (mem_intercalate_iff (by simp)).mp htable
    obtain ⟨name, -, rfl⟩ := List.mem_map.mp hpart
    simp at hmem
  rcases List.mem_cons.mp hrest with hopen | hrest
  · cases hopen
  rcases List.mem_append.mp hrest with hcolumns | hclose
  · obtain ⟨part, hpart, hmem⟩ := (mem_intercalate_iff (by simp)).mp hcolumns
    obtain ⟨name, -, rfl⟩ := List.mem_map.mp hpart
    simp at hmem
  · simp at hclose

/-- Tuple by tuple, the placeholders of the statement are numbered from 1 on. -/
theorem valueTuples_insertTokens (table : String) {rows : Nat} (hrows : rows ≠ 0) :
    valueTuples (insertTokens table rows) = some ((List.range rows).map tupleNumbers) := by
  have hhead : ∀ token ∈ headTokens table, (token != .word "VALUES".toList) = true := by
    intro token htoken
    exact bne_iff_ne.mpr (ne_values_of_mem_headTokens htoken)
  have htuples : ∀ tuple ∈ (List.range rows).map tupleNumbers, tuple ≠ [] := by
    intro tuple htuple
    obtain ⟨row, -, rfl⟩ := List.mem_map.mp htuple
    simp [tupleNumbers, columnCount]
  obtain ⟨later, htokens, hread⟩ := readTuples_intercalate (by simpa using hrows) htuples
  rw [List.map_map] at htokens
  have hall : [.mark ','].intercalate ((List.range rows).map tupleTokens) = .mark '(' :: later :=
    htokens
  -- everything in front of the word VALUES is dropped, as the word is not among it
  rw [valueTuples, insertTokens, List.dropWhile_append_of_pos hhead, hall]
  exact hread

/-! ## The character that cannot be sent -/

theorem mem_doubleQuotes_iff {c : Char} {name : List Char} :
    c ∈ doubleQuotes name ↔ c ∈ name := by
  induction name with
  | nil => rfl
  | cons d name ih =>
      rw [doubleQuotes]
      split
      · next hquote => simp [ih, hquote]
      · simp [ih]

theorem mem_splitDots_iff {c : Char} (hne : c ≠ '.') {text : List Char} :
    (∃ part ∈ splitDots text, c ∈ part) ↔ c ∈ text := by
  induction text with
  | nil => simp [splitDots]
  | cons d text ih =>
      rw [splitDots]
      split
      · next hdot =>
        rw [hdot, List.mem_cons, ← ih]
        simp [hne]
      · cases hparts : splitDots text with
        | nil =>
            rw [hparts] at ih
            simp at ih
            simp [ih]
        | cons part parts =>
            rw [List.mem_cons, ← ih, hparts]
            simp [or_assoc]

/-- The statement has a zero character exactly if the name of the table has one. -/
theorem zero_mem_insertStatement_iff (table : String) (rows : Nat) :
    Char.ofNat 0 ∈ (insertStatement table rows).toList ↔ Char.ofNat 0 ∈ table.toList := by
  have htable : Char.ofNat 0 ∈ (tableName table).toList ↔ Char.ofNat 0 ∈ table.toList := by
    have hdelimited : ∀ part, Char.ofNat 0 ∈ delimited part ↔ Char.ofNat 0 ∈ part := by
      intro part
      simp [delimited, mem_doubleQuotes_iff]
    rw [toList_tableName, mem_intercalate_iff (by decide), ← mem_splitDots_iff (by decide)]
    constructor
    · rintro ⟨text, htext, hzero⟩
      obtain ⟨part, hpart, rfl⟩ := List.mem_map.mp htext
      exact ⟨part, hpart, (hdelimited part).mp hzero⟩
    · rintro ⟨part, hpart, hzero⟩
      exact ⟨_, List.mem_map_of_mem hpart, (hdelimited part).mpr hzero⟩
  have hcolumns : Char.ofNat 0 ∉ columnList.toList := by
    rw [toList_columnList, mem_intercalate_iff (by decide)]
    decide
  have htuples : Char.ofNat 0 ∉ [','].intercalate ((List.range rows).map tupleText) := by
    rw [mem_intercalate_iff (by decide)]
    rintro ⟨text, htext, hzero⟩
    obtain ⟨row, -, rfl⟩ := List.mem_map.mp htext
    rw [tupleText, List.mem_cons, List.mem_append, mem_intercalate_iff (by decide)] at hzero
    rcases hzero with hopen | ⟨part, hpart, hdigit⟩ | hclose
    · exact absurd hopen (by decide)
    · obtain ⟨number, -, rfl⟩ := List.mem_map.mp hpart
      rcases List.mem_cons.mp hdigit with hdollar | hdigits
      · exact absurd hdollar (by decide)
      · exact absurd (Nat.isDigit_of_mem_toDigits (by decide) (by decide) hdigits) (by decide)
    · exact absurd hclose (by decide)
  -- the fixed parts do not have the character, so only the name of the table is left
  have hinsert : Char.ofNat 0 ∉ "INSERT INTO ".toList := by decide
  have hvalues : Char.ofNat 0 ∉ ") VALUES ".toList := by decide
  have hopen : Char.ofNat 0 ∉ "(".toList := by decide
  rw [toList_insertStatement]
  simp only [List.mem_append, htable, hcolumns, htuples, hinsert, hvalues, hopen, false_or,
    or_false]

end HourlyIngest.Sql
