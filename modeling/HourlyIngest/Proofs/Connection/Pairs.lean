import HourlyIngest.Connection.KeyValue

/-!
# The pairs of a connection string

To read a string of keys and values is to find its pairs, and then to set one parameter after the
other (`readPairs?_eq`): a pair that is no good is found out wherever it stands, so it does not
matter that the reader sets a parameter before it looks at the next pair.

A value may be written between quotes, and then it can be any text (`readQuoted?_escaped`), or
without them, if it has only ordinary characters.  A row of pairs that are written in either way is
taken apart into just these pairs (`pairs?_of_row`).
-/

namespace HourlyIngest.Connection

open Text

/-- The pairs of a string of keys and values, in order. -/
def pairs? (text : List Char) : Nat → Option (List (String × String))
  | 0 => none
  | fuel + 1 =>
      match readPair? text with
      | none => none
      | some none => some []
      | some (some ((key, value), rest)) =>
          (pairs? rest fuel).map ((String.ofList key, String.ofList value) :: ·)

/-- Set one parameter after the other. -/
def Parameters.setAll? (parameters : Parameters) (pairs : List (String × String)) :
    Option Parameters :=
  pairs.foldlM (fun parameters pair => parameters.set? pair.1 pair.2) parameters

theorem Parameters.setAll?_cons (parameters : Parameters) (key value : String)
    (pairs : List (String × String)) :
    parameters.setAll? ((key, value) :: pairs) =
      (parameters.set? key value).bind (·.setAll? pairs) :=
  rfl

/-- **The pairs are found first, as it were, and set afterwards.** -/
theorem readPairs?_eq (parameters : Parameters) (text : List Char) (fuel : Nat) :
    readPairs? parameters text fuel = (pairs? text fuel).bind parameters.setAll? := by
  induction fuel generalizing parameters text with
  | zero => rfl
  | succ fuel ih =>
      rw [readPairs?, pairs?]
      cases readPair? text with
      | none => rfl
      | some read =>
          cases read with
          | none => rfl
          | some read =>
              obtain ⟨⟨key, value⟩, rest⟩ := read
              dsimp only
              cases hset : parameters.set? (String.ofList key) (String.ofList value) with
              | none =>
                  -- whether there are more pairs makes no difference now
                  cases pairs? rest fuel <;> simp [Parameters.setAll?_cons, hset]
              | some parameters =>
                  simp only [ih, Option.bind_map, Function.comp_def, Parameters.setAll?_cons, hset,
                    Option.bind_some]

/-! ## Values between quotes -/

/-- A character of a value between quotes: a quote and a backslash have a backslash in front. -/
def escapeChar (c : Char) : List Char :=
  if c = '\\' ∨ c = '\'' then ['\\', c] else [c]

/-- A value between quotes. -/
def quotedValue (value : List Char) : List Char :=
  '\'' :: value.flatMap escapeChar ++ ['\'']

variable {key value text rest : List Char} {fuel : Nat}

theorem readQuoted?_escapeChar (c : Char) (done rest : List Char) :
    readQuoted? done (escapeChar c ++ rest) = readQuoted? (c :: done) rest := by
  unfold escapeChar
  split
  · rfl
  · next hplain =>
    rw [not_or] at hplain
    rw [List.singleton_append, readQuoted?]
    · rw [if_neg hplain.1]
    · exact hplain.2
    · exact fun _ _ heq _ => hplain.1 heq

theorem readQuoted?_escaped (value done rest : List Char) :
    readQuoted? done (value.flatMap escapeChar ++ '\'' :: rest) =
      some (done.reverse ++ value, rest) := by
  induction value generalizing done with
  | nil => rw [List.flatMap_nil, List.nil_append, readQuoted?, List.append_nil]
  | cons c value ih =>
      rw [List.flatMap_cons, List.append_assoc, readQuoted?_escapeChar, ih, List.reverse_cons,
        List.append_assoc]
      rfl

theorem readValue?_quotedValue (value rest : List Char) :
    readValue? (quotedValue value ++ rest) = some (value, rest) := by
  have hbody : quotedValue value ++ rest = '\'' :: (value.flatMap escapeChar ++ '\'' :: rest) := by
    simp [quotedValue]
  rw [hbody, readValue?]
  exact readQuoted?_escaped value [] rest

/-! ## Values without quotes -/

/-- A character that stands for itself without quotes around it. -/
def IsBare (c : Char) : Prop :=
  isBlank c = false ∧ c ≠ '\\' ∧ c ≠ '\''

/-- The text is empty or begins with a blank. -/
def EndsValue (rest : List Char) : Prop :=
  ∀ c ∈ rest.head?, isBlank c = true

theorem readBare_cons {c : Char} (hslash : c ≠ '\\') (done rest : List Char) :
    readBare done (c :: rest) =
      if isBlank c then (done.reverse, c :: rest) else readBare (c :: done) rest := by
  rw [readBare.eq_def]
  split
  · next heq => cases heq
  · next heq => exact absurd (List.cons.inj heq).1 hslash
  · next heq => exact absurd (List.cons.inj heq).1 hslash
  · next heq =>
    obtain ⟨rfl, rfl⟩ := List.cons.inj heq
    rfl

theorem readBare_append (done : List Char) (hvalue : ∀ c ∈ value, IsBare c)
    (hrest : EndsValue rest) : readBare done (value ++ rest) = (done.reverse ++ value, rest) := by
  induction value generalizing done with
  | nil =>
      rw [List.nil_append, List.append_nil]
      cases rest with
      | nil => rfl
      | cons c rest =>
          have hblank : isBlank c = true := hrest c rfl
          have hslash : c ≠ '\\' := by
            rintro rfl
            exact absurd hblank (by decide)
          rw [readBare_cons hslash, if_pos hblank]
  | cons c value ih =>
      rw [List.forall_mem_cons] at hvalue
      obtain ⟨⟨hblank, hslash, -⟩, hvalue⟩ := hvalue
      rw [List.cons_append, readBare_cons hslash, hblank, if_neg Bool.false_ne_true, ih _ hvalue,
        List.reverse_cons, List.append_assoc]
      rfl

theorem readValue?_bare (hempty : value ≠ []) (hvalue : ∀ c ∈ value, IsBare c)
    (hrest : EndsValue rest) : readValue? (value ++ rest) = some (value, rest) := by
  obtain ⟨c, value, rfl⟩ := List.exists_cons_of_ne_nil hempty
  have hread := readBare_append [] hvalue hrest
  rw [List.reverse_nil, List.nil_append] at hread
  rw [readValue?, hread]
  exact fun _ heq => (hvalue c List.mem_cons_self).2.2 (List.cons.inj heq).1

/-! ## Rows of pairs -/

/-- The ways in which a value is written. -/
inductive ValueText (value : List Char) : List Char → Prop where
  | quoted : ValueText value (quotedValue value)
  | bare : value ≠ [] → (∀ c ∈ value, IsBare c) → ValueText value value

theorem ValueText.readValue? (htext : ValueText value text) (hrest : EndsValue rest) :
    readValue? (text ++ rest) = some (value, rest) := by
  cases htext with
  | quoted => exact readValue?_quotedValue value rest
  | bare hempty hvalue => exact readValue?_bare hempty hvalue hrest

theorem ValueText.skipBlank (htext : ValueText value text) :
    skipBlank (text ++ rest) = text ++ rest := by
  cases htext with
  | quoted => rfl
  | bare hempty hvalue =>
      obtain ⟨c, value, rfl⟩ := List.exists_cons_of_ne_nil hempty
      have hblank := (hvalue c List.mem_cons_self).1
      rw [Connection.skipBlank, List.cons_append, List.dropWhile_cons_of_neg (by simp [hblank])]

/-- A key: at least one character, and nothing but characters of keys. -/
structure IsKey (key : List Char) : Prop where
  ne_nil : key ≠ []
  isKeyChar : ∀ c ∈ key, isKeyChar c = true

instance (key : List Char) : Decidable (IsKey key) :=
  decidable_of_iff (key ≠ [] ∧ key.all Connection.isKeyChar = true)
    ⟨fun h => ⟨h.1, List.all_eq_true.mp h.2⟩,
      fun h => ⟨h.ne_nil, List.all_eq_true.mpr h.isKeyChar⟩⟩

theorem IsKey.skipBlank (hkey : IsKey key) : skipBlank (key ++ rest) = key ++ rest := by
  obtain ⟨c, key, rfl⟩ := List.exists_cons_of_ne_nil hkey.ne_nil
  have hblank : isBlank c = false := by
    have hchar := hkey.isKeyChar c List.mem_cons_self
    simp only [Connection.isKeyChar, Bool.and_eq_true, Bool.not_eq_true'] at hchar
    exact hchar.1
  rw [Connection.skipBlank, List.cons_append, List.dropWhile_cons_of_neg (by simp [hblank])]

/-- A pair is read where it stands. -/
theorem readPair?_append (hkey : IsKey key) (htext : ValueText value text)
    (hrest : EndsValue rest) :
    readPair? (key ++ '=' :: (text ++ rest)) = some (some ((key, value), rest)) := by
  have htake : (key ++ '=' :: (text ++ rest)).takeWhile isKeyChar = key := by
    rw [List.takeWhile_append_of_pos hkey.isKeyChar, List.takeWhile_cons_of_neg (by decide),
      List.append_nil]
  have hempty : key.isEmpty = false := by simpa using hkey.ne_nil
  have hequals : skipBlank ('=' :: (text ++ rest)) = '=' :: (text ++ rest) := rfl
  simp only [readPair?, hkey.skipBlank, htake, hempty, Bool.false_eq_true, if_false,
    List.drop_left, hequals, htext.skipBlank, htext.readValue? hrest, Option.map_some]

/-- A pair with its value written in some way. -/
def pairText (key : String) (text : List Char) : List Char :=
  key.toList ++ '=' :: text

/-- Pairs one behind the other, a blank in front of each. -/
inductive Row : List (String × String) → List Char → Prop where
  | nil : Row [] []
  | cons {key value : String} {text rest : List Char} {pairs : List (String × String)} :
      IsKey key.toList → ValueText value.toList text → Row pairs rest →
      Row ((key, value) :: pairs) (' ' :: pairText key text ++ rest)

variable {pairs : List (String × String)}

theorem Row.endsValue (hrow : Row pairs text) : EndsValue text := by
  cases hrow with
  | nil => simp [EndsValue]
  | cons hkey hvalue hrest =>
      rintro c ⟨⟩
      decide

/-- Each pair takes a blank and an equals sign. -/
theorem Row.length_le (hrow : Row pairs text) : 2 * pairs.length ≤ text.length := by
  induction hrow with
  | nil => exact Nat.le_refl 0
  | cons hkey hvalue hrest ih =>
      simp only [pairText, List.length_cons, List.length_append]
      omega

theorem pairs?_cons_blank (text : List Char) (fuel : Nat) :
    pairs? (' ' :: text) fuel = pairs? text fuel := by
  cases fuel with
  | zero => rfl
  | succ fuel => rfl

/-- A row is taken apart into its pairs. -/
theorem pairs?_of_row (hrow : Row pairs text) (hfuel : pairs.length < fuel) :
    pairs? text fuel = some pairs := by
  induction hrow generalizing fuel with
  | nil =>
      obtain ⟨fuel, rfl⟩ := Nat.exists_eq_succ_of_ne_zero (Nat.ne_zero_of_lt hfuel)
      rfl
  | @cons key value text rest pairs hkey hvalue hrest ih =>
      obtain ⟨fuel, rfl⟩ := Nat.exists_eq_succ_of_ne_zero (Nat.ne_zero_of_lt hfuel)
      have hread := readPair?_append hkey hvalue hrest.endsValue
      have htext : ' ' :: pairText key text ++ rest =
          ' ' :: (key.toList ++ '=' :: (text ++ rest)) := by simp [pairText]
      rw [List.length_cons] at hfuel
      rw [htext, pairs?_cons_blank, pairs?, hread]
      dsimp only
      rw [ih (by omega), String.ofList_toList, String.ofList_toList, Option.map_some]

/-- The parameters that a row sets are those of its pairs.  The blank in front of the first one may
be left out. -/
theorem ofKeyValues?_of_row (hrow : Row pairs (' ' :: text)) :
    ofKeyValues? text = Parameters.setAll? {} pairs := by
  have hfuel : pairs.length < text.length + 1 := by
    have hlength := hrow.length_le
    rw [List.length_cons] at hlength
    omega
  rw [ofKeyValues?, readPairs?_eq, ← pairs?_cons_blank, pairs?_of_row hrow hfuel, Option.bind_some]

end HourlyIngest.Connection
