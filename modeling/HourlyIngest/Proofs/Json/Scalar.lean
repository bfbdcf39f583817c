import HourlyIngest.Json.Reader
import HourlyIngest.Json.Writer
import HourlyIngest.Proofs.Json.Numeral

/-!
# Strings and numbers read back

A string is written character by character, and the reader takes each of the written forms for one
character (`readString?_escapeChar`).  A whole number of 64 bits is written without a zero in front
of other digits, so the reader does not refuse it, and all of its digits are added
(`readNumber?_writeInteger`).  Where a number ends is not marked: what follows must not look like
more of it (`EndsNumber`).
-/

namespace HourlyIngest.Json

open Number

variable {done text rest : List Char} {c : Char}

/-! ## Strings -/

theorem hexValue?_hexDigit : ∀ n < 16, hexValue? (hexDigit n) = some n := by
  decide

/-- The two digits of a control make up its number. -/
theorem hexQuad?_of_control (hc : c.toNat < 0x20) :
    hexQuad? '0' '0' (hexDigit (c.toNat / 16)) (hexDigit (c.toNat % 16)) = some c.toNat := by
  have hhigh := hexValue?_hexDigit (c.toNat / 16) (by omega)
  have hlow := hexValue?_hexDigit (c.toNat % 16) (by omega)
  have hzero : hexValue? '0' = some 0 := by decide
  have hvalue : ((0 * 16 + 0) * 16 + c.toNat / 16) * 16 + c.toNat % 16 = c.toNat := by omega
  simp only [hexQuad?, hzero, hhigh, hlow, Option.bind_eq_bind, Option.bind_some, hvalue]
  rfl

theorem readString?_short {letter : Char} (hshort : shortEscape? letter = some c)
    (hletter : letter ≠ 'u') :
    readString? done ('\\' :: letter :: rest) = readString? (c :: done) rest := by
  rw [readString?]
  · rw [hshort]
  · exact fun _ _ _ _ _ heq _ => hletter heq

theorem readString?_control (hc : c.toNat < 0x20) :
    readString? done ('\\' :: 'u' :: '0' :: '0' :: hexDigit (c.toNat / 16) ::
      hexDigit (c.toNat % 16) :: rest) = readString? (c :: done) rest := by
  rw [readString?, hexQuad?_of_control hc]
  dsimp only
  rw [if_neg (by omega), if_neg (by omega), Char.ofNat_toNat]

theorem readString?_plain (hquote : c ≠ '"') (hslash : c ≠ '\\') (hc : ¬ c.toNat < 0x20) :
    readString? done (c :: rest) = readString? (c :: done) rest := by
  rw [readString?]
  · rw [if_neg (not_or.mpr ⟨hslash, hc⟩)]
  · exact hquote
  · exact fun _ _ _ _ _ heq _ => hslash heq
  · exact fun _ _ heq _ => hslash heq

/-- A character of a string is read from the way it is written. -/
theorem readString?_escapeChar (c : Char) (done rest : List Char) :
    readString? done (escapeChar c ++ rest) = readString? (c :: done) rest := by
  -- a control with a letter of its own is known by its number
  have hnumber : ∀ n, c.toNat = n → Char.ofNat n = c := by
    rintro n rfl
    exact Char.ofNat_toNat c
  unfold escapeChar
  split
  · next hquote => exact readString?_short (by rw [hquote]; rfl) (by decide)
  split
  · next hslash => exact readString?_short (by rw [hslash]; rfl) (by decide)
  split
  · next hfeed => exact readString?_short (by rw [hfeed]; rfl) (by decide)
  split
  · next hreturn => exact readString?_short (by rw [hreturn]; rfl) (by decide)
  split
  · next htab => exact readString?_short (by rw [htab]; rfl) (by decide)
  split
  · next hback => exact readString?_short (by rw [← hnumber _ hback]; rfl) (by decide)
  split
  · next hform => exact readString?_short (by rw [← hnumber _ hform]; rfl) (by decide)
  split
  · next hcontrol => exact readString?_control hcontrol
  · next hquote hslash _ _ _ _ _ hcontrol => exact readString?_plain hquote hslash hcontrol

/-- The characters of a string are read from the way they are written. -/
theorem readString?_escaped (text done rest : List Char) :
    readString? done (text.flatMap escapeChar ++ '"' :: rest) =
      some (done.reverse ++ text, rest) := by
  induction text generalizing done with
  | nil => rw [List.flatMap_nil, List.nil_append, readString?, List.append_nil]
  | cons c text ih =>
      rw [List.flatMap_cons, List.append_assoc, readString?_escapeChar, ih, List.reverse_cons,
        List.append_assoc]
      rfl

theorem readString?_writeString (text : String) (rest : List Char) :
    ∃ body, writeString text ++ rest = '"' :: body ∧
      readString? [] body = some (text.toList, rest) := by
  refine ⟨text.toList.flatMap escapeChar ++ '"' :: rest, ?_, readString?_escaped _ _ _⟩
  rw [writeString, List.cons_append, List.append_assoc]
  rfl

/-! ## Numbers -/

/-- The text is empty or begins with a character that cannot stand behind the digits of a number. -/
def EndsNumber (rest : List Char) : Prop :=
  ∀ c ∈ rest.head?, digit? c = none ∧ c ≠ '.' ∧ c ≠ 'e' ∧ c ≠ 'E'

theorem readFraction?_of_ends (hrest : EndsNumber rest) :
    readFraction? rest = some (none, rest) := by
  rw [readFraction?]
  rintro tail rfl
  exact (hrest '.' rfl).2.1 rfl

theorem readPower?_of_ends (hrest : EndsNumber rest) : readPower? rest = some (none, rest) := by
  cases rest with
  | nil => rfl
  | cons c tail =>
      obtain ⟨-, -, hlower, hupper⟩ := hrest c rfl
      exact if_neg (not_or.mpr ⟨hlower, hupper⟩)

theorem EndsNumber.isDigit_head? (hrest : EndsNumber rest) :
    ∀ c ∈ rest.head?, isDigit c = false := by
  intro c hc
  rw [isDigit, (hrest c hc).1]
  rfl

/-- Digits without a zero in front of others are a magnitude, up to where the number ends. -/
theorem readMagnitude?_append {digits : List Char} (negative : Bool) (hdigits : Digits digits)
    (hlead : digits.head? = some '0' → digits.length ≤ 1) (hrest : EndsNumber rest) :
    readMagnitude? negative (digits ++ rest) =
      (assemble? negative digits none none).map fun value => (value, rest) := by
  have htake : (digits ++ rest).takeWhile (digit? · |>.isSome) = digits :=
    takeWhile_isDigit hdigits.isDigit hrest.isDigit_head?
  have hempty : digits.isEmpty = false := by simpa using hdigits.ne_nil
  have hzero : ¬ (digits.head? = some '0' ∧ 1 < digits.length) :=
    fun hboth => Nat.not_lt.mpr (hlead hboth.1) hboth.2
  simp only [readMagnitude?, htake, hempty, List.drop_left, readFraction?_of_ends hrest,
    readPower?_of_ends hrest, if_neg hzero, Bool.false_eq_true, if_false, Option.bind_eq_bind,
    Option.bind_some, Option.map_eq_bind]
  rfl

/-- No zero stands in front of the digits of a number that is not zero. -/
theorem head?_toDigits_ne {n : Nat} (hpos : 0 < n) : (Nat.toDigits 10 n).head? ≠ some '0' := by
  induction n using Nat.strongRecOn with
  | ind n ih =>
      by_cases hsmall : n < 10
      · rw [Nat.toDigits_of_lt_base hsmall, List.head?_cons]
        intro hzero
        have := Nat.digitChar_eq_zero.mp (Option.some.inj hzero)
        omega
      · have hhead := ih (n / 10) (by omega) (by omega)
        obtain ⟨first, others, hdigits⟩ :=
          List.exists_cons_of_ne_nil (Nat.toDigits_ne_nil (n := n / 10) (b := 10))
        rw [Nat.toDigits_of_base_le (by decide) (Nat.le_of_not_lt hsmall), hdigits]
        rwa [hdigits] at hhead

theorem length_toDigits_le_one {n : Nat} (hhead : (Nat.toDigits 10 n).head? = some '0') :
    (Nat.toDigits 10 n).length ≤ 1 := by
  obtain rfl | hpos := Nat.eq_zero_or_pos n
  · rw [Nat.toDigits_zero, List.length_singleton]
  · exact absurd hhead (head?_toDigits_ne hpos)

/-- Digits that have 64 bits make up their number, with a sign if it has room. -/
theorem assemble?_toDigits {negative : Bool} {n : Nat} (hfits : n ≤ maxUnsigned64)
    (hsign : negative = true → 0 < n ∧ n ≤ maxSigned64 + 1) :
    assemble? negative (Nat.toDigits 10 n) none none =
      some (.integer (if negative then -(n : Int) else n)) := by
  have hvalue : appendDigits 0 (Nat.toDigits 10 n) = n := digitsValue_toDigits n
  rw [assemble?_digits, absorb_of_le (hvalue.trans_le hfits), hvalue, Nat.zero_add]
  cases negative with
  | false => exact if_pos ⟨rfl, rfl⟩
  | true =>
      obtain ⟨hpos, hroom⟩ := hsign rfl
      dsimp only
      rw [if_neg (fun h => Bool.noConfusion h.2), if_pos ⟨rfl, hpos, hroom⟩]

/-- The whole number has 64 bits, with or without one for a sign. -/
def IsWhole64 (n : Int) : Prop :=
  -((maxSigned64 : Int) + 1) ≤ n ∧ n ≤ maxUnsigned64

/-- A whole number of 64 bits is read from the way it is written. -/
theorem readNumber?_writeInteger {n : Int} (hn : IsWhole64 n) (hrest : EndsNumber rest) :
    readNumber? (writeInteger n ++ rest) = some (.integer n, rest) := by
  have hdigits := digits_toDigits n.natAbs
  have hread : ∀ negative, readMagnitude? negative (Nat.toDigits 10 n.natAbs ++ rest) = _ :=
    fun negative => readMagnitude?_append negative hdigits length_toDigits_le_one hrest
  have hroom : maxSigned64 + 1 ≤ maxUnsigned64 := by decide
  obtain ⟨hlow, hhigh⟩ := hn
  unfold writeInteger
  by_cases hnegative : n < 0
  · rw [if_pos hnegative, List.cons_append, readNumber?, hread,
      assemble?_toDigits (by omega) (fun _ => by omega)]
    have hvalue : -(n.natAbs : Int) = n := by omega
    simp only [if_true, hvalue, Option.map_some]
  · rw [if_neg hnegative, readNumber?, hread, assemble?_toDigits (by omega) (by simp)]
    · have hvalue : (n.natAbs : Int) = n := by omega
      simp only [Bool.false_eq_true, if_false, hvalue, Option.map_some]
    · -- a digit is no sign
      intro tail hminus
      obtain ⟨first, others, hfirst⟩ := List.exists_cons_of_ne_nil hdigits.ne_nil
      have hdigit := hdigits.isDigit first (hfirst ▸ List.mem_cons_self)
      rw [hfirst] at hminus
      exact (ne_of_isDigit hdigit).2 (List.cons.inj hminus).1

end HourlyIngest.Json
