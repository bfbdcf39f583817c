import HourlyIngest.Sql.Identifier

/-!
# Reading SQL

The part of SQL that statements are written in here: words, delimited identifiers, numbered
placeholders and a few marks.  `tokens` reads a text from left to right and gives up on anything
else, such as a number, a string or a comment.  What a text reads as is put together from what its
parts read as: a part that ends in a mark or a blank reads the same whatever follows
(`ReadsClosed`), any other part reads the same before a mark, a blank or the end (`Reads`).
-/

namespace HourlyIngest.Sql

/-- A token of a statement. -/
inductive Token where
  | word (text : List Char)
  /-- A delimited identifier, without its quotes and with doubled quotes taken for one. -/
  | identifier (name : List Char)
  | placeholder (number : Nat)
  | mark (c : Char)
deriving DecidableEq, Repr

/-- The characters that divide tokens and are none. -/
def isBlank (c : Char) : Bool :=
  c ∈ [' ', '\t', '\n', '\r']

/-- The characters that are tokens of their own. -/
def isMark (c : Char) : Bool :=
  c ∈ ['(', ')', ',', '.', ';']

/-- The characters that begin a word; all characters beyond ASCII are letters. -/
def isLetter (c : Char) : Bool :=
  c.isAlpha || c == '_' || decide (0x80 ≤ c.toNat)

/-- The characters that go on with a word. -/
def isWordPart (c : Char) : Bool :=
  isLetter c || c.isDigit || c == '$'

/-- What is being read.  The characters read so far stand in reverse order. -/
inductive Mode where
  | between
  | word (read : List Char)
  /-- Behind a dollar sign. -/
  | dollar
  | placeholder (number : Nat)
  /-- Between the quotes of an identifier. -/
  | delimited (read : List Char)
  /-- Behind a quote in an identifier, which closes it or is the first of two. -/
  | quoted (read : List Char)
deriving DecidableEq, Repr

namespace Mode

/-- The tokens that are complete if the text ends here. -/
def finish : Mode → Option (List Token)
  | between => some []
  | word read => some [.word read.reverse]
  | dollar => none
  | placeholder number => some [.placeholder number]
  | delimited _ => none
  | quoted read => some [.identifier read.reverse]

/-- What the first character of a token begins. -/
def begin (c : Char) : Option (List Token × Mode) :=
  if isBlank c then some ([], between)
  else if isMark c then some ([.mark c], between)
  else if c = '"' then some ([], delimited [])
  else if c = '$' then some ([], dollar)
  else if isLetter c then some ([], word [c])
  else none

/-- End a token and begin the next. -/
def proceed (token : Token) (c : Char) : Option (List Token × Mode) :=
  (begin c).map fun (tokens, mode) => (token :: tokens, mode)

/-- Read one more character. -/
def next (mode : Mode) (c : Char) : Option (List Token × Mode) :=
  match mode with
  | between => begin c
  | word read =>
      if isWordPart c then some ([], word (c :: read)) else proceed (.word read.reverse) c
  | dollar => if c.isDigit then some ([], placeholder (c.toNat - '0'.toNat)) else none
  | placeholder number =>
      if c.isDigit then some ([], placeholder (10 * number + (c.toNat - '0'.toNat)))
      else proceed (.placeholder number) c
  | delimited read =>
      if c = '"' then some ([], quoted read) else some ([], delimited (c :: read))
  | quoted read =>
      if c = '"' then some ([], delimited ('"' :: read))
      else proceed (.identifier read.reverse) c

end Mode

/-- The tokens that the rest of a text completes. -/
def readFrom (mode : Mode) : List Char → Option (List Token)
  | [] => mode.finish
  | c :: rest =>
      match mode.next c with
      | none => none
      | some (tokens, mode) => (readFrom mode rest).map (tokens ++ ·)

/-- The tokens of a text. -/
def tokens (text : List Char) : Option (List Token) :=
  readFrom .between text

/-! ## Ends of tokens -/

theorem readFrom_cons {mode later : Mode} {c : Char} (hnext : mode.next c = some ([], later))
    (rest : List Char) : readFrom mode (c :: rest) = readFrom later rest := by
  rw [readFrom, hnext]
  simp

/-- Whether a character ends the token in front of it. -/
def isSeparator (c : Char) : Bool :=
  isBlank c || isMark c

/-- The separators, one by one. -/
def separators : List Char :=
  [' ', '\t', '\n', '\r', '(', ')', ',', '.', ';']

theorem mem_separators_iff {c : Char} : c ∈ separators ↔ isSeparator c = true := by
  simp [separators, isSeparator, isBlank, isMark, or_assoc]

theorem separator_cases {c : Char} (hc : isSeparator c = true) :
    isWordPart c = false ∧ c.isDigit = false ∧ c ≠ '"' := by
  have hword : separators.all (fun d => !isWordPart d) = true := by decide
  have hdigit : separators.all (fun d => !d.isDigit) = true := by decide
  have hquote : '"' ∉ separators := by decide
  have hmem := mem_separators_iff.mpr hc
  refine ⟨?_, ?_, fun heq => hquote (heq ▸ hmem)⟩
  · simpa using List.all_eq_true.mp hword c hmem
  · simpa using List.all_eq_true.mp hdigit c hmem

/-- A text that begins with a separator, or is empty. -/
def Apart (rest : List Char) : Prop :=
  ∀ c ∈ rest.head?, isSeparator c = true

/-- A token that may end here ends before a text set apart. -/
theorem readFrom_of_apart {mode : Mode} {pending : List Token}
    (hpending : mode.finish = some pending) {rest : List Char} (hrest : Apart rest) :
    readFrom mode rest = (readFrom .between rest).map (pending ++ ·) := by
  cases rest with
  | nil =>
      have hbetween : Mode.between.finish = some [] := rfl
      rw [readFrom, readFrom, hpending, hbetween]
      simp
  | cons c rest =>
      -- the separator does not go on with the token, so it begins the next one
      obtain ⟨hword, hdigit, hquote⟩ := separator_cases (hrest c rfl)
      have hnext : mode.next c =
          (Mode.begin c).map fun (tokens, mode) => (pending ++ tokens, mode) := by
        cases mode with
        | between =>
            cases hpending
            exact Option.map_id'.symm
        | word read =>
            cases hpending
            rw [Mode.next, hword]
            rfl
        | dollar => cases hpending
        | placeholder number =>
            cases hpending
            rw [Mode.next, hdigit]
            rfl
        | delimited read => cases hpending
        | quoted read =>
            cases hpending
            rw [Mode.next, if_neg hquote]
            rfl
      have hbetween : Mode.between.next c = Mode.begin c := rfl
      rw [readFrom, readFrom, hnext, hbetween]
      cases Mode.begin c with
      | none => rfl
      | some found => simp [Function.comp_def]

/-! ## Texts and what they read as -/

/-- Before a separator or the end, the text reads as the tokens. -/
def Reads (text : List Char) (read : List Token) : Prop :=
  ∀ rest, Apart rest → readFrom .between (text ++ rest) =
    (readFrom .between rest).map (read ++ ·)

/-- Whatever follows, the text reads as the tokens. -/
def ReadsClosed (text : List Char) (read : List Token) : Prop :=
  ∀ rest, readFrom .between (text ++ rest) = (readFrom .between rest).map (read ++ ·)

variable {text other : List Char} {read also : List Token}

theorem Reads.tokens_eq (hreads : Reads text read) : tokens text = some read := by
  have hend := hreads [] (by simp [Apart])
  rw [List.append_nil] at hend
  rw [tokens, hend]
  simp [readFrom, Mode.finish]

theorem ReadsClosed.reads (hreads : ReadsClosed text read) : Reads text read :=
  fun rest _ => hreads rest

theorem reads_nil : Reads [] [] := by
  intro rest _
  simp

theorem ReadsClosed.append (hfirst : ReadsClosed text read) (hsecond : Reads other also) :
    Reads (text ++ other) (read ++ also) := by
  intro rest hrest
  rw [List.append_assoc, hfirst, hsecond rest hrest]
  simp [Function.comp_def]

theorem ReadsClosed.append_closed (hfirst : ReadsClosed text read)
    (hsecond : ReadsClosed other also) : ReadsClosed (text ++ other) (read ++ also) := by
  intro rest
  rw [List.append_assoc, hfirst, hsecond]
  simp [Function.comp_def]

/-- A text is closed by a closed one that begins with a separator. -/
theorem Reads.append_closed (hfirst : Reads text read) {c : Char} (hc : isSeparator c = true)
    (hhead : other.head? = some c) (hsecond : ReadsClosed other also) :
    ReadsClosed (text ++ other) (read ++ also) := by
  intro rest
  have hapart : Apart (other ++ rest) := by
    intro first hmem
    rw [List.head?_append, hhead, Option.some_or, Option.mem_some_iff] at hmem
    exact hmem ▸ hc
  rw [List.append_assoc, hfirst _ hapart, hsecond]
  simp [Function.comp_def]

theorem reads_of_readFrom {mode : Mode} (hread : mode.finish = some read)
    (htext : ∀ rest, readFrom .between (text ++ rest) = readFrom mode rest) : Reads text read := by
  intro rest hrest
  rw [htext, readFrom_of_apart hread hrest]

/-! ## Single tokens -/

theorem readsClosed_mark {c : Char} (hblank : isBlank c = false) (hmark : isMark c = true) :
    ReadsClosed [c] [.mark c] := by
  intro rest
  simp [readFrom, Mode.next, Mode.begin, hblank, hmark]

theorem readsClosed_blank {c : Char} (hblank : isBlank c = true) : ReadsClosed [c] [] := by
  intro rest
  simp [readFrom, Mode.next, Mode.begin, hblank]

theorem readFrom_word {word : List Char} (hword : word.all isWordPart = true)
    (read rest : List Char) :
    readFrom (.word read) (word ++ rest) = readFrom (.word (word.reverse ++ read)) rest := by
  induction word generalizing read with
  | nil => rfl
  | cons c word ih =>
      rw [List.all_cons, Bool.and_eq_true] at hword
      have hnext : (Mode.word read).next c = some ([], .word (c :: read)) := by
        simp [Mode.next, hword.1]
      rw [List.cons_append, readFrom_cons hnext, ih hword.2]
      simp

theorem reads_word {c : Char} {word : List Char} (hbegin : Mode.begin c = some ([], .word [c]))
    (hword : word.all isWordPart = true) : Reads (c :: word) [.word (c :: word)] := by
  have hfinish : (Mode.word (word.reverse ++ [c])).finish = some [.word (c :: word)] := by
    simp [Mode.finish]
  have hnext : Mode.between.next c = some ([], .word [c]) := hbegin
  refine reads_of_readFrom hfinish fun rest => ?_
  rw [List.cons_append, readFrom_cons hnext, readFrom_word hword]

/-- A word with a blank behind it. -/
theorem readsClosed_word (c : Char) (word : List Char)
    (hbegin : Mode.begin c = some ([], .word [c])) (hword : word.all isWordPart = true) :
    ReadsClosed (c :: word ++ [' ']) [.word (c :: word)] :=
  (reads_word hbegin hword).append_closed rfl rfl (readsClosed_blank rfl)

theorem readFrom_doubleQuotes (name read rest : List Char) :
    readFrom (.delimited read) (doubleQuotes name ++ rest) =
      readFrom (.delimited (name.reverse ++ read)) rest := by
  induction name generalizing read with
  | nil => rfl
  | cons c name ih =>
      rw [doubleQuotes]
      split
      · next hquote =>
        subst hquote
        rw [List.cons_append, List.cons_append, readFrom_cons rfl, readFrom_cons rfl, ih]
        simp
      · next hquote =>
        have hnext : (Mode.delimited read).next c = some ([], .delimited (c :: read)) := by
          simp [Mode.next, hquote]
        rw [List.cons_append, readFrom_cons hnext, ih]
        simp

/-- A delimited name reads as the name, whatever it contains. -/
theorem reads_delimited (name : List Char) : Reads (delimited name) [.identifier name] := by
  have hfinish : (Mode.quoted name.reverse).finish = some [.identifier name] := by
    simp [Mode.finish]
  refine reads_of_readFrom hfinish fun rest => ?_
  rw [delimited, List.cons_append, List.append_assoc, readFrom_cons rfl, readFrom_doubleQuotes,
    List.append_nil, List.singleton_append, readFrom_cons rfl]

theorem readFrom_digits {digits : List Char} (hdigits : ∀ c ∈ digits, c.isDigit = true)
    (number : Nat) (rest : List Char) :
    readFrom (.placeholder number) (digits ++ rest) =
      readFrom (.placeholder (Nat.ofDigitChars 10 digits number)) rest := by
  induction digits generalizing number with
  | nil => rfl
  | cons c digits ih =>
      rw [List.forall_mem_cons] at hdigits
      have hnext : (Mode.placeholder number).next c =
          some ([], .placeholder (10 * number + (c.toNat - '0'.toNat))) := by
        simp [Mode.next, hdigits.1]
      rw [List.cons_append, readFrom_cons hnext, ih hdigits.2, Nat.ofDigitChars_cons]

/-- A dollar sign and the digits of a number read as a placeholder. -/
theorem reads_placeholder (number : Nat) :
    Reads ('$' :: Nat.toDigits 10 number) [.placeholder number] := by
  have hfinish : (Mode.placeholder number).finish = some [.placeholder number] := rfl
  refine reads_of_readFrom hfinish fun rest => ?_
  have hdigits : ∀ c ∈ Nat.toDigits 10 number, c.isDigit = true :=
    fun c hc => Nat.isDigit_of_mem_toDigits (by decide) (by decide) hc
  have hvalue : Nat.ofDigitChars 10 (Nat.toDigits 10 number) 0 = number :=
    Nat.ofDigitChars_ten_toDigits
  -- the first digit is read behind the dollar sign, the others go on with the number
  cases htext : Nat.toDigits 10 number with
  | nil => exact absurd htext Nat.toDigits_ne_nil
  | cons c digits =>
      rw [htext] at hdigits hvalue
      rw [List.forall_mem_cons] at hdigits
      have hnext : Mode.dollar.next c = some ([], .placeholder (c.toNat - '0'.toNat)) := by
        simp [Mode.next, hdigits.1]
      rw [Nat.ofDigitChars_cons, Nat.mul_zero, Nat.zero_add] at hvalue
      rw [List.cons_append, List.cons_append, readFrom_cons rfl, readFrom_cons hnext,
        readFrom_digits hdigits.2, hvalue]

/-! ## Lists -/

/-- Parts with a mark between them read as what the parts read as, with the mark between. -/
theorem reads_intercalate {α : Type} {c : Char} (hblank : isBlank c = false)
    (hmark : isMark c = true) {items : List α} {write : α → List Char} {meaning : α → List Token}
    (hitems : ∀ item ∈ items, Reads (write item) (meaning item)) :
    Reads ([c].intercalate (items.map write)) ([.mark c].intercalate (items.map meaning)) := by
  have hseparator : isSeparator c = true := by simp [isSeparator, hmark]
  induction items with
  | nil => exact reads_nil
  | cons item rest ih =>
      rw [List.forall_mem_cons] at hitems
      cases rest with
      | nil => simpa using hitems.1
      | cons following rest =>
          -- the mark behind the first item closes it, whatever the others are
          have hrest := ih hitems.2
          have hfirst := hitems.1.append_closed hseparator rfl (readsClosed_mark hblank hmark)
          simpa [List.intercalate, List.intersperse] using hfirst.append hrest

end HourlyIngest.Sql
