import HourlyIngest.Proofs.Sql.Statement

/-!
# Reading the name of a table

A name is written as its parts, each between quotes, with dots between them, and `readName` reads it
back by the rules of delimited identifiers alone: a quote opens a part, two quotes stand for one, a
single quote closes the part, and one dot stands between two parts.  Whatever the text of a name is,
what is read are its parts between the dots (`readName_tableName`): no character of it is taken for
anything else, since outside the quotes there is nothing but the dots (`outsideQuotes_intercalate`).
-/

namespace HourlyIngest.Sql

/-! ## The parts of a text -/

theorem splitDots_ne_nil (text : List Char) : splitDots text ≠ [] := by
  cases text with
  | nil => simp [splitDots]
  | cons c rest =>
      rw [splitDots]
      split
      · simp
      · split <;> simp

theorem dot_notMem_of_mem_splitDots {text part : List Char} (hpart : part ∈ splitDots text) :
    '.' ∉ part := by
  induction text generalizing part with
  | nil => simp_all [splitDots]
  | cons c rest ih =>
      rw [splitDots] at hpart
      split at hpart
      · rcases List.mem_cons.mp hpart with rfl | hlater
        · simp
        · exact ih hlater
      · next hdot =>
        cases hrest : splitDots rest with
        | nil => exact absurd hrest (splitDots_ne_nil rest)
        | cons first parts =>
            simp only [hrest] at hpart ih
            rcases List.mem_cons.mp hpart with rfl | hlater
            · rw [List.mem_cons, not_or]
              exact ⟨Ne.symm hdot, ih List.mem_cons_self⟩
            · exact ih (List.mem_cons_of_mem _ hlater)

theorem intercalate_splitDots (text : List Char) : ['.'].intercalate (splitDots text) = text := by
  induction text with
  | nil => rfl
  | cons c rest ih =>
      cases hrest : splitDots rest with
      | nil => exact absurd hrest (splitDots_ne_nil rest)
      | cons first parts =>
          rw [hrest] at ih
          rw [splitDots, hrest]
          split
          · next hdot => rw [List.intercalate_cons_cons, ih, hdot]; rfl
          · cases parts with
            | nil => simpa using ih
            | cons second parts =>
                rw [List.intercalate_cons_cons] at ih ⊢
                rw [← ih]
                rfl

/-- The parts are what the text is split into at every dot. -/
theorem splitDots_eq_splitOn (text : List Char) : splitDots text = text.splitOn '.' := by
  have hsplit := List.splitOn_intercalate '.'
    (fun part hpart => dot_notMem_of_mem_splitDots hpart) (splitDots_ne_nil text)
  rw [intercalate_splitDots] at hsplit
  exact hsplit.symm

theorem length_splitDots (text : List Char) : (splitDots text).length = text.count '.' + 1 := by
  induction text with
  | nil => rfl
  | cons c rest ih =>
      rw [splitDots]
      split
      · next hdot => rw [List.length_cons, ih, hdot, List.count_cons_self]
      · next hdot =>
        cases hrest : splitDots rest with
        | nil => exact absurd hrest (splitDots_ne_nil rest)
        | cons first parts =>
            rw [hrest, List.length_cons] at ih
            rw [List.length_cons, ih, List.count_cons_of_ne hdot]

/-! ## Reading -/

/-- What of a name is being read.  The characters of the open part stand in reverse order. -/
inductive Spot where
  /-- Before the quote that opens a part. -/
  | before
  | within (read : List Char)
  /-- Behind a quote, which closes the part or is the first of two. -/
  | behind (read : List Char)
deriving DecidableEq, Repr

/-- The parts that the rest of a name completes.  Nothing may be left over. -/
def readParts : Spot → List Char → Option (List (List Char))
  | .behind read, [] => some [read.reverse]
  | _, [] => none
  | .before, c :: rest => if c = '"' then readParts (.within []) rest else none
  | .within read, c :: rest =>
      if c = '"' then readParts (.behind read) rest else readParts (.within (c :: read)) rest
  | .behind read, c :: rest =>
      if c = '"' then readParts (.within ('"' :: read)) rest
      else if c = '.' then (readParts .before rest).map (read.reverse :: ·)
      else none

/-- The parts of a name that is written in delimited identifiers. -/
def readName (text : List Char) : Option (List (List Char)) :=
  readParts .before text

theorem readParts_doubleQuotes (name read rest : List Char) :
    readParts (.within read) (doubleQuotes name ++ rest) =
      readParts (.within (name.reverse ++ read)) rest := by
  induction name generalizing read with
  | nil => rfl
  | cons c name ih =>
      rw [doubleQuotes]
      split
      · next hquote =>
        subst hquote
        have htwo : ∀ more, readParts (.within read) ('"' :: '"' :: more) =
            readParts (.within ('"' :: read)) more := fun _ => rfl
        rw [List.cons_append, List.cons_append, htwo, ih]
        simp
      · next hquote =>
        rw [List.cons_append, readParts, if_neg hquote, ih]
        simp

theorem readParts_delimited (name rest : List Char) :
    readParts .before (delimited name ++ rest) = readParts (.behind name.reverse) rest := by
  have hopen : ∀ more, readParts .before ('"' :: more) = readParts (.within []) more :=
    fun _ => rfl
  have hclose : ∀ read, readParts (.within read) ('"' :: rest) = readParts (.behind read) rest :=
    fun _ => rfl
  rw [delimited, List.cons_append, List.append_assoc, hopen, readParts_doubleQuotes,
    List.singleton_append, hclose, List.append_nil]

/-- Parts that are written one after the other are read one after the other. -/
theorem readName_intercalate {parts : List (List Char)} (hne : parts ≠ []) :
    readName (['.'].intercalate (parts.map delimited)) = some parts := by
  induction parts with
  | nil => exact absurd rfl hne
  | cons part rest ih =>
      cases rest with
      | nil =>
          have hread := readParts_delimited part []
          rw [List.append_nil] at hread
          simp [readName, hread, readParts]
      | cons following rest =>
          have hdot : ∀ read more, readParts (.behind read) ('.' :: more) =
              (readParts .before more).map (read.reverse :: ·) := fun _ _ => rfl
          have hrest := ih (by simp)
          rw [readName, List.map_cons] at hrest
          rw [readName, List.map_cons, List.map_cons, List.intercalate_cons_cons,
            List.append_assoc, readParts_delimited, List.singleton_append, hdot, hrest]
          simp

/-! ## Outside the quotes -/

/-- The characters that do not stand between quotes.  Two quotes that stand for one close an
identifier and open it again. -/
def outsideQuotes (inside : Bool) : List Char → List Char
  | [] => []
  | c :: rest =>
      if c = '"' then outsideQuotes (!inside) rest
      else if inside then outsideQuotes inside rest
      else c :: outsideQuotes inside rest

theorem outsideQuotes_doubleQuotes (name rest : List Char) :
    outsideQuotes true (doubleQuotes name ++ rest) = outsideQuotes true rest := by
  induction name with
  | nil => rfl
  | cons c name ih =>
      rw [doubleQuotes]
      split
      · next hquote => exact ih
      · next hquote =>
        rw [List.cons_append, outsideQuotes, if_neg hquote, if_pos rfl, ih]

theorem outsideQuotes_delimited (name rest : List Char) :
    outsideQuotes false (delimited name ++ rest) = outsideQuotes false rest := by
  have hopen : ∀ inside more, outsideQuotes inside ('"' :: more) = outsideQuotes (!inside) more :=
    fun _ _ => rfl
  rw [delimited, List.cons_append, List.append_assoc, hopen, Bool.not_false,
    outsideQuotes_doubleQuotes, List.singleton_append, hopen, Bool.not_true]

theorem outsideQuotes_intercalate (parts : List (List Char)) :
    outsideQuotes false (['.'].intercalate (parts.map delimited)) =
      List.replicate (parts.length - 1) '.' := by
  induction parts with
  | nil => rfl
  | cons part rest ih =>
      cases rest with
      | nil =>
          have hread := outsideQuotes_delimited part []
          rw [List.append_nil] at hread
          simp [hread, outsideQuotes]
      | cons following rest =>
          have hdot : ∀ more, outsideQuotes false ('.' :: more) = '.' :: outsideQuotes false more :=
            fun _ => rfl
          rw [List.map_cons] at ih
          rw [List.map_cons, List.map_cons, List.intercalate_cons_cons, List.append_assoc,
            outsideQuotes_delimited, List.singleton_append, hdot, ih]
          rfl

/-! ## Names of tables -/

theorem readName_toList_tableName (table : String) :
    readName (tableName table).toList = some (table.toList.splitOn '.') := by
  rw [toList_tableName, readName_intercalate (splitDots_ne_nil _), splitDots_eq_splitOn]

/-- Names that are written alike are the same. -/
theorem eq_of_splitOn_eq {table other : String}
    (hsplit : table.toList.splitOn '.' = other.toList.splitOn '.') : table = other := by
  have hjoined := congrArg (['.'].intercalate ·) hsplit
  simp only [List.intercalate_splitOn] at hjoined
  exact String.toList_inj.mp hjoined

/-- **No name escapes its quotes.**  The written name of a table reads as the parts of its text
between the dots, of which the text can be put together again; outside the quotes stand the dots
alone; and different texts are written differently. -/
theorem readName_tableName (table : String) :
    readName (tableName table).toList = some (table.toList.splitOn '.') ∧
      (∀ part ∈ table.toList.splitOn '.', '.' ∉ part) ∧
        ['.'].intercalate (table.toList.splitOn '.') = table.toList ∧
          outsideQuotes false (tableName table).toList =
            List.replicate (table.toList.count '.') '.' ∧
            ∀ other, tableName other = tableName table → other = table := by
  refine ⟨readName_toList_tableName table, ?_, List.intercalate_splitOn '.', ?_, ?_⟩
  · rw [← splitDots_eq_splitOn]
    exact fun part hpart => dot_notMem_of_mem_splitDots hpart
  · rw [toList_tableName, outsideQuotes_intercalate, length_splitDots, Nat.add_sub_cancel]
  · intro other hsame
    have hread := readName_toList_tableName other
    rw [hsame, readName_toList_tableName, Option.some.injEq] at hread
    exact eq_of_splitOn_eq hread.symm

end HourlyIngest.Sql
