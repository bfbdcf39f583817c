import HourlyIngest.Proofs.Number.Numeral
import Mathlib.Data.List.TakeWhile
import Mathlib.Tactic.Ring

/-!
# What rounding cannot do

A quotient that is rounded to a number of the binary64 format keeps its sign (`sign?_ofRatio`) and
does not fall below a power of two (`atLeast_ofRatio`), since the powers of two belong to the
format.  Both survive when the number is brought back to a whole one, so that a whole number far out
of the range of a setting stays out of it however often it is rounded on the way.
-/

namespace HourlyIngest.Number

namespace Binary64

variable {negative : Bool} {num den bound limit significand : Nat} {exponent : Int}

/-- The significand before a carry. -/
def significandFor (num den : Nat) : Nat :=
  roundEven (scaleByTwo num den (exponentFor num den)).1
    (scaleByTwo num den (exponentFor num den)).2

/-- What rounding a quotient can give: it is too large for the format, or it carries into the next
power of two, or it has its significand and exponent as they come. -/
inductive Rounds (negative : Bool) (num den : Nat) : Binary64 → Prop where
  | overflow : Rounds negative num den (.infinite negative)
  | carry : significandFor num den = 2 * leastFull → exponentFor num den + 1 ≤ maxExponent →
      Rounds negative num den (.finite negative leastFull (exponentFor num den + 1))
  | plain : exponentFor num den ≤ maxExponent →
      Rounds negative num den (.finite negative (significandFor num den) (exponentFor num den))

theorem rounds_ofRatio (negative : Bool) (hnum : num ≠ 0) :
    Rounds negative num den (ofRatio negative num den) := by
  have hopen : ofRatio negative num den =
      let rounded : Nat × Int :=
        if significandFor num den = 2 * leastFull then (leastFull, exponentFor num den + 1)
        else (significandFor num den, exponentFor num den)
      if maxExponent < rounded.2 then .infinite negative
      else .finite negative rounded.1 rounded.2 := by
    rw [ofRatio, if_neg hnum]
    rfl
  rw [hopen]
  by_cases hcarry : significandFor num den = 2 * leastFull
  · rw [if_pos hcarry]
    dsimp only
    split
    · exact .overflow
    · next hexponent => exact .carry hcarry (Int.not_lt.mp hexponent)
  · rw [if_neg hcarry]
    dsimp only
    split
    · exact .overflow
    · next hexponent => exact .plain (Int.not_lt.mp hexponent)

/-! ## Signs -/

/-- Whether there is a minus sign; what is no number has none and no plus sign either. -/
def sign? : Binary64 → Option Bool
  | .nan => none
  | .infinite negative => some negative
  | .finite negative _ _ => some negative

theorem sign?_ofRatio (negative : Bool) (num den : Nat) :
    (ofRatio negative num den).sign? = some negative := by
  by_cases hnum : num = 0
  · rw [ofRatio, if_pos hnum]
    rfl
  · have hrounds := @rounds_ofRatio num den negative hnum
    generalize ofRatio negative num den = x at hrounds ⊢
    cases hrounds with
    | _ => rfl

/-- Below zero nothing is left of a number when it becomes a whole one. -/
theorem toNatUpTo_of_negative {x : Binary64} (hx : x.sign? = some true) (limit : Nat) :
    x.toNatUpTo limit = 0 := by
  cases x with
  | nan => rfl
  | infinite negative =>
      obtain rfl : negative = true := Option.some.inj hx
      rfl
  | finite negative significand exponent =>
      obtain rfl : negative = true := Option.some.inj hx
      rfl

/-! ## Lower bounds -/

theorem magnitude_pos (significand : Nat) (exponent : Int) :
    0 < (magnitude significand exponent).2 := by
  cases exponent with
  | ofNat n => exact Nat.one_pos
  | negSucc n => exact Nat.two_pow_pos (n + 1)

/-- The magnitude of the number is at least a whole number. -/
def Reaches (bound significand : Nat) (exponent : Int) : Prop :=
  bound * (magnitude significand exponent).2 ≤ (magnitude significand exponent).1

/-- The number is not negative, and at least some whole number. -/
def AtLeast (bound : Nat) : Binary64 → Prop
  | .nan => False
  | .infinite negative => negative = false
  | .finite negative significand exponent => negative = false ∧ Reaches bound significand exponent

theorem AtLeast.le_toNatUpTo {x : Binary64} (hx : AtLeast bound x) (limit : Nat) :
    min limit bound ≤ x.toNatUpTo limit := by
  cases x with
  | nan => exact hx.elim
  | infinite negative =>
      obtain rfl : negative = false := hx
      exact Nat.min_le_left limit bound
  | finite negative significand exponent =>
      obtain ⟨rfl, hreaches⟩ := hx
      have hpos := magnitude_pos significand exponent
      have hround : bound ≤ roundUp (magnitude significand exponent).1
          (magnitude significand exponent).2 := by
        unfold Reaches at hreaches
        rw [roundUp, Nat.le_div_iff_mul_le (by omega)]
        calc
          bound * (2 * (magnitude significand exponent).2) =
              2 * (bound * (magnitude significand exponent).2) := Nat.mul_left_comm ..
          _ ≤ 2 * (magnitude significand exponent).1 := Nat.mul_le_mul_left 2 hreaches
          _ ≤ _ := Nat.le_add_right _ _
      show min limit bound ≤ min limit (roundUp _ _)
      omega

/-- Twice the significand, or the next exponent. -/
theorem reaches_succ (hreaches : Reaches bound (2 * significand) exponent) :
    Reaches bound significand (exponent + 1) := by
  unfold Reaches at hreaches ⊢
  match exponent with
  | .ofNat n =>
      have hnext : Int.ofNat n + 1 = Int.ofNat (n + 1) := rfl
      simp only [hnext, magnitude, Nat.mul_one, Nat.pow_eq] at hreaches ⊢
      calc
        bound ≤ 2 * significand * 2 ^ n := hreaches
        _ = significand * 2 ^ (n + 1) := by ring
  | .negSucc 0 =>
      have hnext : Int.negSucc 0 + 1 = Int.ofNat 0 := rfl
      simp only [hnext, magnitude, Nat.pow_eq] at hreaches ⊢
      omega
  | .negSucc (n + 1) =>
      have hnext : Int.negSucc (n + 1) + 1 = Int.negSucc n := rfl
      simp only [hnext, magnitude, Nat.pow_eq] at hreaches ⊢
      have hdouble : bound * 2 ^ (n + 1 + 1) = 2 * (bound * 2 ^ (n + 1)) := by ring
      omega

theorem le_roundEven (num den : Nat) : num / den ≤ roundEven num den := by
  unfold roundEven
  dsimp only
  split
  · exact Nat.le_refl _
  · split <;> omega

/-- The exponent leaves a whole digit before the point, where it is not negative. -/
theorem mul_two_pow_le_of_exponentFor {n : Nat} (hnum : num ≠ 0)
    (hexponent : exponentFor num den = Int.ofNat n) : den * 2 ^ n ≤ num := by
  have hguess : (n : Int) ≤ (Nat.log2 num : Int) - Nat.log2 den - 52 := by
    unfold exponentFor minExponent at hexponent
    dsimp only at hexponent
    have hn : Int.ofNat n = (n : Int) := rfl
    rw [hn] at hexponent
    split at hexponent <;> omega
  have hlog : Nat.log2 den + 1 + n ≤ Nat.log2 num := by omega
  calc
    den * 2 ^ n ≤ 2 ^ (Nat.log2 den + 1) * 2 ^ n :=
      Nat.mul_le_mul_right _ (Nat.le_of_lt Nat.lt_log2_self)
    _ = 2 ^ (Nat.log2 den + 1 + n) := (Nat.pow_add 2 _ n).symm
    _ ≤ 2 ^ Nat.log2 num := Nat.pow_le_pow_right Nat.two_pos hlog
    _ ≤ num := Nat.log2_self_le hnum

/-- The significand that comes of a quotient keeps above a power of two that the quotient keeps
above. -/
theorem reaches_significandFor (hden : 0 < den) {k : Nat} (hbound : 2 ^ k * den ≤ num) :
    Reaches (2 ^ k) (significandFor num den) (exponentFor num den) := by
  have hnum : num ≠ 0 := by
    have hpos := Nat.mul_pos (Nat.two_pow_pos k) hden
    omega
  have hround : (scaleByTwo num den (exponentFor num den)).1 /
      (scaleByTwo num den (exponentFor num den)).2 ≤ significandFor num den := le_roundEven _ _
  unfold Reaches
  cases hexponent : exponentFor num den with
  | ofNat n =>
      rw [hexponent] at hround
      simp only [scaleByTwo, magnitude, Nat.mul_one, Nat.pow_eq] at hround ⊢
      have hpos : 0 < den * 2 ^ n := Nat.mul_pos hden (Nat.two_pow_pos n)
      by_cases hn : n ≤ k
      · -- the quotient is at least a whole power of two
        have hpower : 2 ^ k = 2 ^ (k - n) * 2 ^ n := by
          rw [← Nat.pow_add, Nat.sub_add_cancel hn]
        have hquotient : 2 ^ (k - n) ≤ num / (den * 2 ^ n) := by
          rw [Nat.le_div_iff_mul_le hpos]
          calc
            2 ^ (k - n) * (den * 2 ^ n) = 2 ^ (k - n) * 2 ^ n * den := by ring
            _ = 2 ^ k * den := by rw [hpower]
            _ ≤ num := hbound
        rw [hpower]
        exact Nat.mul_le_mul_right _ (Nat.le_trans hquotient hround)
      · -- the exponent alone is above the bound
        have hquotient : 1 ≤ num / (den * 2 ^ n) := by
          rw [Nat.le_div_iff_mul_le hpos, Nat.one_mul]
          exact mul_two_pow_le_of_exponentFor hnum hexponent
        calc
          2 ^ k ≤ 2 ^ n := Nat.pow_le_pow_right Nat.two_pos (by omega)
          _ = 1 * 2 ^ n := (Nat.one_mul _).symm
          _ ≤ significandFor num den * 2 ^ n :=
            Nat.mul_le_mul_right _ (Nat.le_trans hquotient hround)
  | negSucc n =>
      rw [hexponent] at hround
      simp only [scaleByTwo, magnitude, Nat.pow_eq] at hround ⊢
      refine Nat.le_trans ?_ hround
      rw [Nat.le_div_iff_mul_le hden]
      calc
        2 ^ k * 2 ^ (n + 1) * den = 2 ^ k * den * 2 ^ (n + 1) := by ring
        _ ≤ num * 2 ^ (n + 1) := Nat.mul_le_mul_right _ hbound

/-- **Rounding does not go below a power of two.** -/
theorem atLeast_ofRatio (hden : 0 < den) {k : Nat} (hbound : 2 ^ k * den ≤ num) :
    AtLeast (2 ^ k) (ofRatio false num den) := by
  have hnum : num ≠ 0 := by
    have hpos := Nat.mul_pos (Nat.two_pow_pos k) hden
    omega
  have hreaches := reaches_significandFor hden hbound
  have hrounds := @rounds_ofRatio num den false hnum
  generalize ofRatio false num den = x at hrounds
  cases hrounds with
  | overflow => rfl
  | carry hcarry _ =>
      rw [hcarry] at hreaches
      exact ⟨rfl, reaches_succ hreaches⟩
  | plain => exact ⟨rfl, hreaches⟩

/-! ## Decimals -/

/-- A number of more binary digits than the format has room for. -/
theorem ofRatio_of_huge (negative : Bool) (hlog : 1200 ≤ Nat.log2 num) :
    ofRatio negative num 1 = .infinite negative := by
  have hnum : num ≠ 0 := by
    rintro rfl
    exact absurd hlog (by decide)
  have hone : Nat.log2 1 = 0 := by decide
  have hexponent : maxExponent < exponentFor num 1 := by
    unfold exponentFor minExponent maxExponent
    dsimp only
    rw [hone]
    split <;> omega
  have hrounds := @rounds_ofRatio num 1 negative hnum
  generalize ofRatio negative num 1 = x at hrounds
  cases hrounds with
  | overflow => rfl
  | carry _ hsmall => omega
  | plain hsmall => omega

/-- A numeral of more than four hundred digits is that long in binary, too. -/
theorem le_log2_of_length {n : Nat} (hn : n ≠ 0) (hlength : 400 < (Nat.toDigits 10 n).length) :
    1200 ≤ Nat.log2 n := by
  obtain ⟨m, hm⟩ := Nat.exists_eq_add_of_lt hlength
  have hlarge : 10 ^ (400 + m) ≤ n := by
    have hlong : ¬ (Nat.toDigits 10 n).length ≤ 400 + m := by omega
    rwa [Nat.length_toDigits_le_iff (by decide) (by omega), Nat.not_lt] at hlong
  have hbinary : 2 ^ (3 * (400 + m)) ≤ n := by
    rw [Nat.pow_mul]
    exact Nat.le_trans (Nat.pow_le_pow_left (by decide) (400 + m)) hlarge
  have hlog := (Nat.le_log2 hn).mpr hbinary
  omega

/-- A decimal without an exponent is rounded as the whole number that it is. -/
theorem ofDecimal_zero (negative : Bool) (n : Nat) :
    ofDecimal negative n 0 = ofRatio negative n 1 := by
  unfold ofDecimal
  dsimp only
  by_cases hn : n = 0
  · rw [if_pos hn, ofRatio, if_pos hn]
  · rw [if_neg hn]
    by_cases hlong : 400 < (0 : Int) + (Nat.toDigits 10 n).length
    · have hlength : 400 < (Nat.toDigits 10 n).length := by omega
      rw [if_pos hlong, ofRatio_of_huge negative (le_log2_of_length hn hlength)]
    · rw [if_neg hlong, if_neg (by omega)]
      simp [scaleByTen]

/-! ## Whole numbers that do not fit -/

/-- A double that a whole number became which has more than 64 bits: it lies on the same side, far
out.  The same may happen to a zero with a minus sign. -/
inductive Beyond (v : Int) (x : Binary64) : Prop where
  | low : v = 0 ∨ v < -((maxSigned64 : Int) + 1) → x.sign? = some true → Beyond v x
  | high : (maxSigned64 : Int) < v → AtLeast (2 ^ 60) x → Beyond v x

theorem beyond_ofInt {v : Int} (hv : ¬ IsSigned64 v) : Beyond v (ofInt v) := by
  unfold IsSigned64 at hv
  unfold ofInt
  by_cases hnegative : v < 0
  · rw [decide_eq_true hnegative]
    exact .low (Or.inr (by omega)) (sign?_ofRatio true _ 1)
  · rw [decide_eq_false hnegative]
    refine .high (by omega) (atLeast_ofRatio Nat.one_pos ?_)
    have hbound : 2 ^ 60 ≤ maxSigned64 := by decide
    omega

/-- Brought back to a natural number, it is zero or far above every bound. -/
theorem Beyond.toNatUpTo {v : Int} {x : Binary64} (hx : Beyond v x) (hlimit : 2 ^ 60 ≤ limit) :
    (v = 0 ∧ x.toNatUpTo limit = 0) ∨ (v < 0 ∧ ¬ IsSigned64 v ∧ x.toNatUpTo limit = 0) ∨
      (0 < v ∧ ¬ IsSigned64 v ∧ 2 ^ 60 ≤ x.toNatUpTo limit) := by
  cases hx with
  | low hv hsign =>
      have hzero := toNatUpTo_of_negative hsign limit
      rcases hv with rfl | hv
      · exact Or.inl ⟨rfl, hzero⟩
      · refine Or.inr (Or.inl ⟨by omega, fun hfits => ?_, hzero⟩)
        have hleast := hfits.1
        omega
  | high hv hx =>
      have hleast := hx.le_toNatUpTo limit
      rw [Nat.min_eq_right hlimit] at hleast
      refine Or.inr (Or.inr ⟨by omega, fun hfits => ?_, hleast⟩)
      have hmost := hfits.2
      omega

end Binary64

/-! ## Digits as numbers with a fraction -/

theorem lowerLetter_of_isDigit {c : Char} (hc : isDigit c = true) : lowerLetter c = c := by
  have hnine : c ≤ '9' := by
    unfold isDigit digit? at hc
    split at hc
    · next hrange => exact hrange.2
    · cases hc
  refine if_neg fun hletter => ?_
  have hbetween : 'A' ≤ '9' := Char.le_trans hletter.1 hnine
  exact absurd hbetween (by decide)

/-- Digits, with or without a sign, are a magnitude and no name of a value that is not finite. -/
theorem readBinary64?_of_digits {digits : List Char} (hne : digits ≠ [])
    (hdigits : ∀ c ∈ digits, isDigit c = true) :
    readBinary64? digits = readMagnitude64? false digits ∧
      readBinary64? ('+' :: digits) = readMagnitude64? false digits ∧
        readBinary64? ('-' :: digits) = readMagnitude64? true digits := by
  have hmap : digits.map lowerLetter = digits := by
    rw [List.map_congr_left fun c hc => lowerLetter_of_isDigit (hdigits c hc), List.map_id']
  obtain ⟨first, rest, rfl⟩ := List.exists_cons_of_ne_nil hne
  have hfirst := hdigits first List.mem_cons_self
  -- none of the names begins with a digit, and no digit is a sign
  have hname : ∀ word : String, word.toList.head?.any isDigit = false →
      String.ofList (first :: rest) ≠ word := by
    rintro _ hword rfl
    simp [hfirst] at hword
  have hnan := hname "nan" (by decide)
  have hinf := hname "inf" (by decide)
  have hinfinity := hname "infinity" (by decide)
  have hplus : first ≠ '+' := by
    rintro rfl
    exact absurd hfirst (by decide)
  have hminus : first ≠ '-' := by
    rintro rfl
    exact absurd hfirst (by decide)
  refine ⟨?_, ?_, ?_⟩ <;>
    simp [readBinary64?, hmap, hnan, hinf, hinfinity, hplus, hminus, -String.ofList_cons]

variable {digits text : List Char} {v : Int}

theorem readMagnitude64?_of_digits (hdigits : Digits digits) (negative : Bool) :
    readMagnitude64? negative digits =
      some (Binary64.ofRatio negative (digitsValue digits) 1) := by
  have htake : digits.takeWhile isDigit = digits :=
    List.takeWhile_eq_self_iff.mpr hdigits.isDigit
  have hdrop : digits.dropWhile isDigit = [] :=
    List.dropWhile_eq_nil_iff.mpr hdigits.isDigit
  have hempty : digits.isEmpty = false := by simpa using hdigits.ne_nil
  simp [readMagnitude64?, htake, hdrop, hempty, readExponent?, Binary64.ofDecimal_zero]

/-- A numeral of a number that is not zero is the nearest double. -/
theorem readBinary64?_of_numeral (htext : Numeral text v) (hv : v ≠ 0) :
    readBinary64? text = some (Binary64.ofInt v) := by
  have hnatural : ∀ n : Nat, Binary64.ofRatio false n 1 = Binary64.ofInt n := by
    intro n
    have hpositive : ¬ (n : Int) < 0 := by omega
    rw [Binary64.ofInt, decide_eq_false hpositive, Int.natAbs_natCast]
  cases htext with
  | plain hdigits =>
      rw [(readBinary64?_of_digits hdigits.ne_nil hdigits.isDigit).1,
        readMagnitude64?_of_digits hdigits, hnatural]
  | plus hdigits =>
      rw [(readBinary64?_of_digits hdigits.ne_nil hdigits.isDigit).2.1,
        readMagnitude64?_of_digits hdigits, hnatural]
  | @minus digits hdigits =>
      have hnegative : -(digitsValue digits : Int) < 0 := by omega
      rw [(readBinary64?_of_digits hdigits.ne_nil hdigits.isDigit).2.2,
        readMagnitude64?_of_digits hdigits, Binary64.ofInt, decide_eq_true hnegative,
        Int.natAbs_neg, Int.natAbs_natCast]

end HourlyIngest.Number
