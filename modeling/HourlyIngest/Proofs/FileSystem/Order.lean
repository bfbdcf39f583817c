import HourlyIngest.FileSystem.Path
import Mathlib.Data.List.Basic

/-!
# The order of paths

Bytes are compared like lists of numbers (`compareBytes_eq_lt_iff`), components by their kinds and
then by the bytes that they are written with (`Component.compare_eq`), and paths like the lists of
their components.  All of these are total orders in which only equals compare equal.
-/

namespace HourlyIngest.Path

open Text

/-! ## Bytes -/

theorem compareBytes_eq_compare (a b : Bytes) : compareBytes a b = compare a b := by
  rw [List.compare_eq_compareLex]
  induction a generalizing b with
  | nil => cases b <;> rfl
  | cons x a ih =>
      cases b with
      | nil => rfl
      | cons y b =>
          rw [compareBytes, List.compareLex_cons_cons, ih]
          rcases Std.lt_trichotomy x y with hlt | rfl | hgt
          · rw [if_pos hlt, Std.compare_eq_lt.mpr hlt]
            rfl
          · rw [if_neg (UInt8.lt_irrefl x), if_neg (UInt8.lt_irrefl x),
              Std.compare_eq_iff_eq.mpr rfl]
            rfl
          · rw [if_neg (UInt8.lt_asymm hgt), if_pos hgt, Std.compare_eq_gt.mpr hgt]
            rfl

theorem compareBytes_eq_lt_iff {a b : Bytes} : compareBytes a b = .lt ↔ a < b := by
  induction a generalizing b with
  | nil => cases b <;> simp [compareBytes]
  | cons x a ih =>
      cases b with
      | nil => simp [compareBytes]
      | cons y b =>
          rw [compareBytes, List.cons_lt_cons_iff, ← ih]
          rcases Std.lt_trichotomy x y with hlt | rfl | hgt
          · simp [hlt]
          · simp
          · simp [UInt8.lt_asymm hgt, hgt, (UInt8.ne_of_lt hgt).symm]

/-! ## Components -/

namespace Component

instance : Ord Component := ⟨Component.compare⟩

/-- A kind other than names has one component, so its bytes do not matter. -/
theorem compare_eq : Component.compare = compareLex (compareOn rank) (compareOn bytes) := by
  funext a b
  cases a with
  | name first =>
      cases b with
      | name second => exact compareBytes_eq_compare first second
      | _ => rfl
  | _ => cases b <;> rfl

instance : Std.TransOrd Component := by
  have htrans : Std.TransCmp (compareLex (compareOn rank) (compareOn bytes)) := inferInstance
  rwa [← compare_eq] at htrans

instance : Std.LawfulEqOrd Component where
  eq_of_compare := by
    intro a b heq
    change Component.compare a b = .eq at heq
    rw [compare_eq, compareLex_eq_eq] at heq
    obtain ⟨hrank, hbytes⟩ := heq
    simp only [compareOn, Std.compare_eq_iff_eq] at hrank hbytes
    cases a <;> cases b <;> simp_all [rank, bytes]

end Component

/-! ## Paths -/

theorem compareComponents_eq_compare (a b : List Component) :
    compareComponents a b = compare a b := by
  rw [List.compare_eq_compareLex]
  induction a generalizing b with
  | nil => cases b <;> rfl
  | cons x a ih =>
      cases b with
      | nil => rfl
      | cons y b =>
          rw [compareComponents, List.compareLex_cons_cons, ih]
          change _ = (x.compare y).then _
          cases x.compare y <;> rfl

end HourlyIngest.Path
