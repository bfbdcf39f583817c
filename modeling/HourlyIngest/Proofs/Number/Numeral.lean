import HourlyIngest.Number.Floating

/-!
# Decimal numerals

A numeral of a whole number is a row of digits, of which the first ones may be zeros, with or without
a sign (`Numeral`).  Every whole number has a numeral (`numeral_toString`), and a reader of 64-bit
numbers takes a numeral for its number if that has 64 bits, and refuses it otherwise
(`readSigned64_of_numeral`): the prefixes of a numeral, at each of which the reader might stop, have
values below that of the whole.
-/

namespace HourlyIngest.Number

/-- Nothing but digits, and at least one of them. -/
structure Digits (text : List Char) : Prop where
  ne_nil : text ≠ []
  isDigit : ∀ c ∈ text, isDigit c = true

/-- The text is a decimal numeral of the whole number. -/
inductive Numeral : List Char → Int → Prop where
  | plain {digits : List Char} : Digits digits → Numeral digits (digitsValue digits)
  | plus {digits : List Char} : Digits digits → Numeral ('+' :: digits) (digitsValue digits)
  | minus {digits : List Char} : Digits digits → Numeral ('-' :: digits) (-(digitsValue digits))

/-- The whole number has 64 bits, one of them for the sign. -/
def IsSigned64 (value : Int) : Prop :=
  -((maxSigned64 : Int) + 1) ≤ value ∧ value ≤ maxSigned64

instance (value : Int) : Decidable (IsSigned64 value) :=
  inferInstanceAs (Decidable (_ ∧ _))

variable {digits text : List Char} {value limit : Nat} {fault : NumeralFault} {c : Char} {v : Int}

/-! ## Digits -/

theorem digit?_of_isDigit (hc : isDigit c = true) : digit? c = some (c.toNat - '0'.toNat) := by
  unfold isDigit digit? at hc
  unfold digit?
  split
  · rfl
  · next hrange =>
    rw [if_neg hrange] at hc
    cases hc

theorem digit?_getD_lt (c : Char) : (digit? c).getD 0 < 10 := by
  unfold digit?
  split
  · next hrange =>
    have hnine : c.toNat ≤ '9'.toNat := hrange.2
    have hvalue : '9'.toNat = '0'.toNat + 9 := rfl
    show c.toNat - '0'.toNat < 10
    omega
  · exact Nat.zero_lt_succ 9

theorem ne_of_isDigit (hc : isDigit c = true) : c ≠ '+' ∧ c ≠ '-' := by
  constructor
  all_goals
    rintro rfl
    exact absurd hc (by decide)

/-- A row of digits ends before the first character that is none. -/
theorem takeWhile_isDigit {rest : List Char} (htext : ∀ c ∈ text, isDigit c = true)
    (hrest : ∀ c ∈ rest.head?, isDigit c = false) : (text ++ rest).takeWhile isDigit = text := by
  have hbehind : rest.takeWhile isDigit = [] := by
    cases rest with
    | nil => rfl
    | cons c rest => simp [hrest c rfl]
  rw [List.takeWhile_append_of_pos htext, hbehind, List.append_nil]

/-- The value of digits behind others of a value. -/
def appendDigits (value : Nat) (digits : List Char) : Nat :=
  digits.foldl (fun value c => value * 10 + (digit? c).getD 0) value

theorem le_appendDigits (value : Nat) (digits : List Char) : value ≤ appendDigits value digits := by
  induction digits generalizing value with
  | nil => exact Nat.le_refl value
  | cons c digits ih =>
      calc
        value ≤ value * 10 + (digit? c).getD 0 := by omega
        _ ≤ appendDigits (value * 10 + (digit? c).getD 0) digits := ih _
        _ = appendDigits value (c :: digits) := rfl

/-- Digits are refused just when their value is too large. -/
theorem readDigits_eq (hdigits : ∀ c ∈ digits, isDigit c = true) (hvalue : value ≤ limit) :
    readDigits limit fault value digits =
      if appendDigits value digits ≤ limit then .ok (appendDigits value digits)
      else .error fault := by
  induction digits generalizing value with
  | nil => exact (if_pos hvalue).symm
  | cons c digits ih =>
      rw [List.forall_mem_cons] at hdigits
      have hdigit := digit?_of_isDigit hdigits.1
      have hcons : appendDigits value (c :: digits) =
          appendDigits (value * 10 + (c.toNat - '0'.toNat)) digits := by
        rw [appendDigits, List.foldl_cons, hdigit]
        rfl
      rw [readDigits, hdigit, hcons]
      dsimp only
      split
      · next hlimit =>
        have hlarge := le_appendDigits (value * 10 + (c.toNat - '0'.toNat)) digits
        rw [if_neg (by omega)]
      · next hlimit => exact ih hdigits.2 (by omega)

theorem readMagnitude_eq (hdigits : Digits digits) :
    readMagnitude limit fault digits =
      if digitsValue digits ≤ limit then .ok (digitsValue digits) else .error fault := by
  cases digits with
  | nil => exact absurd rfl hdigits.ne_nil
  | cons c digits => exact readDigits_eq hdigits.isDigit (Nat.zero_le limit)

/-! ## Numerals -/

theorem readSigned64_of_digits (hdigits : Digits digits) :
    readSigned64 digits = (readMagnitude maxSigned64 .tooLarge digits).map Int.ofNat := by
  cases digits with
  | nil => exact absurd rfl hdigits.ne_nil
  | cons c digits =>
      obtain ⟨hplus, hminus⟩ := ne_of_isDigit (hdigits.isDigit c List.mem_cons_self)
      rw [readSigned64]
      · exact List.cons_ne_nil c digits
      · exact fun rest heq => hplus (List.cons.inj heq).1
      · exact fun rest heq => hminus (List.cons.inj heq).1

/-- **A numeral is read as its number if that has 64 bits.** -/
theorem readSigned64_of_numeral (htext : Numeral text v) :
    readSigned64 text =
      if IsSigned64 v then .ok v else .error (if 0 ≤ v then .tooLarge else .tooSmall) := by
  have hpositive : ∀ digits, Digits digits →
      (readMagnitude maxSigned64 .tooLarge digits).map Int.ofNat =
        if IsSigned64 (digitsValue digits) then .ok (digitsValue digits : Int)
        else .error (if 0 ≤ (digitsValue digits : Int) then .tooLarge else .tooSmall) := by
    intro digits hdigits
    rw [readMagnitude_eq hdigits, if_pos (Int.natCast_nonneg (digitsValue digits))]
    by_cases hlimit : digitsValue digits ≤ maxSigned64
    · rw [if_pos hlimit, if_pos ⟨by omega, by omega⟩]
      rfl
    · rw [if_neg hlimit, if_neg fun hfits => hlimit (by exact_mod_cast hfits.2)]
      rfl
  cases htext with
  | plain hdigits => rw [readSigned64_of_digits hdigits, hpositive _ hdigits]
  | plus hdigits => exact hpositive _ hdigits
  | @minus digits hdigits =>
      have hzero : digitsValue digits = 0 ∨ ¬ (0 : Int) ≤ -(digitsValue digits : Int) := by omega
      rw [readSigned64, readMagnitude_eq hdigits]
      by_cases hlimit : digitsValue digits ≤ maxSigned64 + 1
      · rw [if_pos hlimit, if_pos ⟨by omega, by omega⟩]
        rfl
      · rw [if_neg hlimit, if_neg fun hfits => hlimit (by have := hfits.1; omega), if_neg (by omega)]
        rfl

/-- The characters of a numeral stand before the letters. -/
theorem Numeral.lt_of_mem (htext : Numeral text v) : ∀ c ∈ text, c.toNat < 0x41 := by
  have hdigits : ∀ {digits}, Digits digits → ∀ c ∈ digits, c.toNat < 0x41 := by
    intro digits hdigits c hc
    have hdigit := hdigits.isDigit c hc
    unfold isDigit digit? at hdigit
    split at hdigit
    · next hrange =>
      have hnine : c.toNat ≤ '9'.toNat := hrange.2
      have hvalue : '9'.toNat < 0x41 := by decide
      omega
    · cases hdigit
  cases htext with
  | plain h => exact hdigits h
  | plus h => exact List.forall_mem_cons.mpr ⟨by decide, hdigits h⟩
  | minus h => exact List.forall_mem_cons.mpr ⟨by decide, hdigits h⟩

theorem digits_toDigits (n : Nat) : Digits (Nat.toDigits 10 n) where
  ne_nil := Nat.toDigits_ne_nil
  isDigit c hc := by
    have hdigit : c.isDigit = true := Nat.isDigit_of_mem_toDigits (by decide) (by decide) hc
    simp only [Char.isDigit, Bool.and_eq_true, decide_eq_true_eq] at hdigit
    have hrange : '0' ≤ c ∧ c ≤ '9' := hdigit
    rw [Number.isDigit, digit?, if_pos hrange]
    rfl

theorem appendDigits_eq_ofDigitChars (hdigits : ∀ c ∈ digits, isDigit c = true) :
    appendDigits value digits = Nat.ofDigitChars 10 digits value := by
  induction digits generalizing value with
  | nil => rfl
  | cons c digits ih =>
      rw [List.forall_mem_cons] at hdigits
      rw [appendDigits, List.foldl_cons, digit?_of_isDigit hdigits.1, Nat.ofDigitChars_cons,
        Nat.mul_comm]
      exact ih hdigits.2

theorem digitsValue_toDigits (n : Nat) : digitsValue (Nat.toDigits 10 n) = n := by
  have hvalue : Nat.ofDigitChars 10 (Nat.toDigits 10 n) 0 = n := Nat.ofDigitChars_ten_toDigits
  rw [← appendDigits_eq_ofDigitChars (digits_toDigits n).isDigit] at hvalue
  exact hvalue

theorem readUnsigned_of_digits (hdigits : Digits digits) (hlimit : digitsValue digits ≤ limit) :
    readUnsigned limit digits = .ok (digitsValue digits) := by
  have hread : readUnsigned limit digits = readMagnitude limit .tooLarge digits := by
    cases digits with
    | nil => exact absurd rfl hdigits.ne_nil
    | cons c digits =>
        obtain ⟨hplus, -⟩ := ne_of_isDigit (hdigits.isDigit c List.mem_cons_self)
        rw [readUnsigned]
        · exact List.cons_ne_nil c digits
        · exact fun rest heq => hplus (List.cons.inj heq).1
  rw [hread, readMagnitude_eq hdigits, if_pos hlimit]

/-- The digits of a number are read as the number if it is not too large. -/
theorem readUnsigned_toDigits {n : Nat} (hn : n ≤ limit) :
    readUnsigned limit (Nat.toDigits 10 n) = .ok n := by
  have hvalue := digitsValue_toDigits n
  rw [readUnsigned_of_digits (digits_toDigits n) (by rwa [hvalue]), hvalue]

theorem numeral_toString (v : Int) : Numeral (toString v).toList v := by
  cases v with
  | ofNat n =>
      have htext : (toString (Int.ofNat n)).toList = Nat.toDigits 10 n := by
        show (String.ofList (Nat.toDigits 10 n)).toList = _
        rw [String.toList_ofList]
      have hnumeral := Numeral.plain (digits_toDigits n)
      rw [digitsValue_toDigits] at hnumeral
      rw [htext]
      exact hnumeral
  | negSucc n =>
      have htext : (toString (Int.negSucc n)).toList = '-' :: Nat.toDigits 10 (n + 1) := by
        show ("-" ++ String.ofList (Nat.toDigits 10 (n + 1))).toList = _
        simp only [String.toList_append, String.toList_ofList]
        rfl
      have hnumeral := Numeral.minus (digits_toDigits (n + 1))
      rw [digitsValue_toDigits] at hnumeral
      rw [htext]
      exact hnumeral

end HourlyIngest.Number
