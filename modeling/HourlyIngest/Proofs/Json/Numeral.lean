import HourlyIngest.Json.Reader
import HourlyIngest.Proofs.Number.Rounding

/-!
# Numerals in JSON

A numeral is read digit by digit into a whole number as long as that has 64 bits (`absorb`).  If all
digits fit, the number is kept, with its sign if the room for that is there.  Otherwise it becomes a
double, in more than one step and with a rounding in each, so that it need not be the nearest one;
but it stays on its side of zero and far out of the range of 64 bits (`readNumber?_of_numeral`).
-/

namespace HourlyIngest.Json

open Number

variable {digits rest text : List Char} {value used : Nat} {negative : Bool} {v : Int}

/-! ## Digits that fit -/

/-- Digits whose value has 64 bits are all added. -/
theorem absorb_of_le (hfits : appendDigits value digits ≤ maxUnsigned64) :
    absorb value used digits = (appendDigits value digits, used + digits.length) := by
  induction digits generalizing value used with
  | nil => rfl
  | cons c digits ih =>
      have hnext : value * 10 + (digit? c).getD 0 ≤ maxUnsigned64 :=
        Nat.le_trans (le_appendDigits _ digits) hfits
      rw [absorb, if_neg (Nat.not_lt.mpr hnext), ih hfits, List.length_cons]
      have hlength : used + 1 + digits.length = used + (digits.length + 1) := by omega
      rw [hlength]
      rfl

/-- Of other digits some are left over, and those that were added have a large value already. -/
theorem absorb_of_lt (hvalue : value ≤ maxUnsigned64)
    (hlarge : maxUnsigned64 < appendDigits value digits) :
    2 ^ 60 ≤ (absorb value used digits).1 ∧
      (absorb value used digits).2 < used + digits.length := by
  induction digits generalizing value used with
  | nil => exact absurd hlarge (Nat.not_lt.mpr hvalue)
  | cons c digits ih =>
      rw [absorb]
      split
      · next hnext =>
        have hdigit := digit?_getD_lt c
        have hmax : maxUnsigned64 = 2 ^ 64 - 1 := rfl
        exact ⟨by omega, by rw [List.length_cons]; omega⟩
      · next hnext =>
        obtain ⟨hbound, hleft⟩ := @ih _ (used + 1) (Nat.not_lt.mp hnext) hlarge
        exact ⟨hbound, by rw [List.length_cons]; omega⟩

/-! ## Scaling -/

theorem one_le_powerOfTen : ∀ exponent < 309, 1 ≤ powerOfTen exponent := by
  decide +kernel

theorem scaleReal?_eq_some {num den : Nat} {x : Binary64}
    (hscale : scaleReal? negative num den = some x) : x = Binary64.ofRatio negative num den := by
  unfold scaleReal? at hscale
  split at hscale
  · cases hscale
  · exact (Option.some.inj hscale).symm

/-- Scaling keeps the sign. -/
theorem sign?_of_scaleByPower? {start x : Binary64} {exponent : Int} {fuel : Nat}
    (hscale : scaleByPower? start exponent fuel = some x) : x.sign? = start.sign? := by
  induction fuel generalizing start exponent with
  | zero =>
      obtain rfl : start = x := Option.some.inj hscale
      rfl
  | succ fuel ih =>
      cases start with
      | finite negative significand binary =>
          rw [scaleByPower?] at hscale
          split at hscale
          · split at hscale
            all_goals
              rw [scaleReal?_eq_some hscale, Binary64.sign?_ofRatio]
              rfl
          · split at hscale
            · obtain rfl := Option.some.inj hscale
              rfl
            · split at hscale
              · cases hscale
              · rw [ih hscale, Binary64.sign?_ofRatio]
                rfl
      | nan | infinite =>
          obtain rfl := Option.some.inj hscale
          rfl

/-- Scaling up does not go below a power of two. -/
theorem atLeast_of_scaleByPower? {start x : Binary64} {exponent : Int} {fuel k : Nat}
    (hstart : Binary64.AtLeast (2 ^ k) start) (hexponent : 0 ≤ exponent)
    (hscale : scaleByPower? start exponent fuel = some x) : Binary64.AtLeast (2 ^ k) x := by
  cases fuel with
  | zero =>
      obtain rfl : start = x := Option.some.inj hscale
      exact hstart
  | succ fuel =>
      cases start with
      | finite negative significand binary =>
          obtain ⟨rfl, hreaches⟩ := hstart
          rw [scaleByPower?] at hscale
          rw [if_pos hexponent] at hscale
          split at hscale
          · next hrange =>
            have hpower := one_le_powerOfTen exponent.toNat (by omega)
            rw [scaleReal?_eq_some hscale]
            refine Binary64.atLeast_ofRatio (Binary64.magnitude_pos _ _) ?_
            exact Nat.le_trans hreaches (Nat.le_mul_of_pos_right _ hpower)
          · split at hscale
            · obtain rfl := Option.some.inj hscale
              exact ⟨rfl, hreaches⟩
            · cases hscale
      | nan => exact hstart.elim
      | infinite =>
          obtain rfl := Option.some.inj hscale
          exact hstart

/-! ## Numbers -/

/-- What a numeral of a whole number is read as: that number, or a double far out. -/
inductive Whole (v : Int) : Json → Prop where
  | kept : Whole v (.integer v)
  | rounded {x : Binary64} : Binary64.Beyond v x → Whole v (.real x)

/-- The number of digits with or without a minus sign before them. -/
def signedValue (negative : Bool) (digits : List Char) : Int :=
  if negative then -(digitsValue digits : Int) else digitsValue digits

/-- Rounded and scaled up, a number that is out of the range of 64 bits stays out of it. -/
theorem beyond_of_scaleByPower? {num : Nat} {exponent : Int} {fuel : Nat} {x : Binary64}
    (hscale : scaleByPower? (Binary64.ofRatio negative num 1) exponent fuel = some x)
    (hexponent : 0 ≤ exponent)
    (hlow : negative = true →
      signedValue negative digits = 0 ∨ signedValue negative digits < -((maxSigned64 : Int) + 1))
    (hhigh : negative = false →
      (maxSigned64 : Int) < signedValue negative digits ∧ 2 ^ 60 ≤ num) :
    Binary64.Beyond (signedValue negative digits) x := by
  cases negative with
  | true =>
      refine .low (hlow rfl) ?_
      rw [sign?_of_scaleByPower? hscale, Binary64.sign?_ofRatio]
  | false =>
      obtain ⟨hvalue, hnum⟩ := hhigh rfl
      refine .high hvalue (atLeast_of_scaleByPower? ?_ hexponent hscale)
      exact Binary64.atLeast_ofRatio Nat.one_pos (by rwa [Nat.mul_one])

/-- Without a fraction and an exponent a number is whole, if its digits were all added and there is
room for its sign. -/
theorem assemble?_digits (negative : Bool) (digits : List Char) :
    assemble? negative digits none none =
      let head := absorb 0 0 digits
      if head.2 = digits.length ∧ negative = false then some (.integer head.1)
      else if head.2 = digits.length ∧ 0 < head.1 ∧ head.1 ≤ maxSigned64 + 1 then
        some (.integer (if negative then -(head.1 : Int) else head.1))
      else
        (scaleByPower? (Binary64.ofRatio negative head.1 1) (digits.length - head.2 : Nat) 4).map
          .real := by
  cases negative <;> simp [assemble?, absorb, and_assoc]

/-- Digits alone make up their number, or a double far out. -/
theorem assemble?_of_digits {json : Json}
    (hassemble : assemble? negative digits none none = some json) :
    Whole (signedValue negative digits) json := by
  have hroom : maxSigned64 + 1 ≤ maxUnsigned64 ∧ 2 ^ 60 ≤ maxSigned64 := by decide
  rw [assemble?_digits] at hassemble
  by_cases hfits : digitsValue digits ≤ maxUnsigned64
  · have habsorb : absorb 0 0 digits = (digitsValue digits, digits.length) := by
      have hall := @absorb_of_le digits 0 0 hfits
      rwa [Nat.zero_add] at hall
    simp only [habsorb, true_and] at hassemble
    split at hassemble
    · next hpositive =>
      obtain rfl := Option.some.inj hassemble
      rw [hpositive]
      exact .kept
    split at hassemble
    · obtain rfl := Option.some.inj hassemble
      exact .kept
    next hsign hrange =>
    -- a zero with a minus sign, or no room for the sign
    have hnegative : negative = true := by simpa using hsign
    obtain ⟨x, hscale, rfl⟩ := Option.map_eq_some_iff.mp hassemble
    refine .rounded (beyond_of_scaleByPower? hscale (Int.natCast_nonneg _) (fun _ => ?_) ?_)
    · simp only [signedValue, hnegative, if_true]
      omega
    · simp [hnegative]
  · -- some digits are left over
    obtain ⟨hlarge, hleft⟩ := @absorb_of_lt digits 0 0 (Nat.zero_le _) (Nat.lt_of_not_le hfits)
    have hpartial : (absorb 0 0 digits).2 ≠ digits.length := by omega
    simp only [hpartial, false_and, if_false] at hassemble
    obtain ⟨x, hscale, rfl⟩ := Option.map_eq_some_iff.mp hassemble
    refine .rounded (beyond_of_scaleByPower? hscale (Int.natCast_nonneg _) ?_ ?_)
    · rintro rfl
      simp only [signedValue, if_true]
      omega
    · rintro rfl
      refine ⟨?_, hlarge⟩
      simp only [signedValue, Bool.false_eq_true, if_false]
      omega

/-- The digits are the whole text. -/
theorem readMagnitude?_of_digits (hdigits : Digits digits) {json : Json}
    (hread : readMagnitude? negative digits = some (json, rest)) :
    Whole (signedValue negative digits) json := by
  have htake : digits.takeWhile (digit? · |>.isSome) = digits :=
    List.takeWhile_eq_self_iff.mpr hdigits.isDigit
  have hempty : digits.isEmpty = false := by simpa using hdigits.ne_nil
  simp only [readMagnitude?, htake, hempty, List.drop_length, readFraction?, readPower?,
    Bool.false_eq_true, if_false, Option.bind_eq_bind, Option.bind_some] at hread
  split at hread
  · cases hread
  · obtain ⟨value, hassemble, hvalue⟩ := Option.bind_eq_some_iff.mp hread
    obtain ⟨rfl, -⟩ := Prod.mk.inj (Option.some.inj hvalue)
    exact assemble?_of_digits hassemble

/-- **A numeral is read as its number or as a double far out of the range of 64 bits**, as far as
JSON takes it for a number at all. -/
theorem readNumber?_of_numeral (htext : Numeral text v) {json : Json}
    (hread : readNumber? text = some (json, rest)) : Whole v json := by
  cases htext with
  | plain hdigits =>
      have hminus : ∀ following, text = '-' :: following → False := by
        rintro following rfl
        exact absurd (hdigits.isDigit '-' List.mem_cons_self) (by decide)
      rw [readNumber?] at hread
      · exact readMagnitude?_of_digits hdigits hread
      · exact hminus
  | plus hdigits =>
      -- a plus sign is no digit
      exact absurd hread (by simp [readNumber?, readMagnitude?, digit?])
  | minus hdigits => exact readMagnitude?_of_digits hdigits hread

end HourlyIngest.Json
