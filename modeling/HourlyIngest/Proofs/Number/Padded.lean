import HourlyIngest.Proofs.Number.Numeral
import Mathlib.Algebra.GroupWithZero.Nat

/-!
# Numerals of a fixed width

A numeral that is padded with zeros has at least the wanted width (`le_length_padded`), and just
this width if the number is not too large for it (`length_padded`).  The zeros do not change its
value (`digitsValue_padded`), and its end can be seen (`takeWhile_padded`).
-/

namespace HourlyIngest.Number

variable {width n : Nat}

theorem isDigit_of_mem_padded : ∀ c ∈ padded width n, isDigit c = true := by
  intro c hc
  obtain hzero | hdigit := List.mem_append.mp hc
  · rw [List.eq_of_mem_replicate hzero]
    rfl
  · exact (digits_toDigits n).isDigit c hdigit

theorem le_length_padded (width n : Nat) : width ≤ (padded width n).length := by
  rw [padded, List.length_append, List.length_replicate]
  omega

theorem length_padded (hwidth : 0 < width) (hn : n < 10 ^ width) :
    (padded width n).length = width := by
  have hlength : (digits n).length ≤ width :=
    (Nat.length_toDigits_le_iff (by decide) hwidth).mpr hn
  rw [padded, List.length_append, List.length_replicate]
  omega

/-- Zeros in front of a numeral do not count. -/
theorem digitsValue_replicate_append (k : Nat) (text : List Char) :
    digitsValue (List.replicate k '0' ++ text) = digitsValue text := by
  induction k with
  | zero => rfl
  | succ k ih => exact ih

theorem digitsValue_padded (width n : Nat) : digitsValue (padded width n) = n := by
  rw [padded, digitsValue_replicate_append]
  exact digitsValue_toDigits n

theorem takeWhile_padded {rest : List Char} (hrest : ∀ c ∈ rest.head?, isDigit c = false) :
    (padded width n ++ rest).takeWhile isDigit = padded width n :=
  takeWhile_isDigit isDigit_of_mem_padded hrest

end HourlyIngest.Number
