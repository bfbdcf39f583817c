import HourlyIngest.Proofs.Number.Numeral
import HourlyIngest.Toml.Scalar
import Mathlib.Data.List.TakeWhile

/-!
# Numerals in TOML

A token that is a decimal numeral is its number or nothing at all (`readToken?_of_numeral`).  Dates,
times and numbers with a fraction are told apart from it by marks, of which a numeral has none behind
its first character.
-/

namespace HourlyIngest.Toml

open Number

variable {digits text rest : List Char} {c : Char} {v : Int}

theorem splitSign_of_digits (hdigits : Digits digits) : splitSign digits = (none, digits) := by
  obtain ⟨first, others, rfl⟩ := List.exists_cons_of_ne_nil hdigits.ne_nil
  obtain ⟨hplus, hminus⟩ := ne_of_isDigit (hdigits.isDigit first List.mem_cons_self)
  unfold splitSign
  split
  · next heq => exact absurd (List.cons.inj heq).1 hplus
  · next heq => exact absurd (List.cons.inj heq).1 hminus
  · rfl

/-- A numeral is a sign, which may be missing, and digits. -/
theorem exists_splitSign (htext : Numeral text v) :
    ∃ sign digits, splitSign text = (sign, digits) ∧ sign.toList ++ digits = text ∧
      Digits digits := by
  cases htext with
  | plain hdigits => exact ⟨none, text, splitSign_of_digits hdigits, rfl, hdigits⟩
  | plus hdigits => exact ⟨some '+', _, rfl, rfl, hdigits⟩
  | minus hdigits => exact ⟨some '-', _, rfl, rfl, hdigits⟩

theorem plainDigits?_of_digits (hdigits : Digits digits) :
    plainDigits? isDigit digits = some digits := by
  induction digits with
  | nil => exact absurd rfl hdigits.ne_nil
  | cons c rest ih =>
      obtain ⟨hc, hrest⟩ := List.forall_mem_cons.mp hdigits.isDigit
      cases rest with
      | nil => simp [plainDigits?, hc]
      | cons next rest =>
          have hmark : next ≠ '_' := by
            rintro rfl
            exact absurd (hrest '_' List.mem_cons_self) (by decide)
          rw [plainDigits?, if_pos hc, ih ⟨List.cons_ne_nil next rest, hrest⟩]
          · rfl
          · exact hmark

/-! ## The kinds of tokens -/

/-- A numeral is a whole number if it has 64 bits. -/
theorem readInteger?_of_numeral (htext : Numeral text v) {value : Toml}
    (hread : readInteger? text = some value) : value = .integer v ∧ IsSigned64 v := by
  obtain ⟨sign, digits, hsplit, hjoin, hdigits⟩ := exists_splitSign htext
  simp only [readInteger?, hsplit, plainDigits?_of_digits hdigits, Option.bind_eq_bind,
    Option.bind_some, hjoin, readSigned64_of_numeral htext] at hread
  split at hread
  · cases hread
  by_cases hfits : IsSigned64 v
  · rw [if_pos hfits] at hread
    exact ⟨(Option.some.inj hread).symm, hfits⟩
  · rw [if_neg hfits] at hread
    cases hread

/-- Nothing but digits follows the first character of a numeral, and so no mark does. -/
theorem after?_of_numeral (htext : Numeral text v) (hmark : isDigit c = false) {width n : Nat}
    (hwidth : 0 < width) (hfront : takeNumber? width text = some (n, rest)) :
    after? c rest = none := by
  have htail : ∀ d ∈ text.tail, isDigit d = true := by
    cases htext with
    | plain hdigits => exact fun d hd => hdigits.isDigit d (List.mem_of_mem_tail hd)
    | plus hdigits => exact hdigits.isDigit
    | minus hdigits => exact hdigits.isDigit
  have hrest : rest = text.drop width := by
    unfold takeNumber? at hfront
    dsimp only at hfront
    split at hfront
    · exact (Prod.mk.inj (Option.some.inj hfront)).2.symm
    · cases hfront
  cases rest with
  | nil => rfl
  | cons next following =>
      refine if_neg ?_
      rintro rfl
      have hmem : next ∈ text.tail.drop (width - 1) := by
        rw [← List.drop_one, List.drop_drop, Nat.add_sub_cancel' hwidth, ← hrest]
        exact List.mem_cons_self
      rw [htail next (List.mem_of_mem_drop hmem)] at hmark
      cases hmark

theorem readMoment?_of_numeral (htext : Numeral text v) (bounds : MomentBounds) :
    readMoment? bounds text = none := by
  have hdate : takeDate? text = none := by
    unfold takeDate?
    cases hyear : takeNumber? 4 text with
    | none => rfl
    | some year =>
        have hmark := after?_of_numeral htext (show isDigit '-' = false by decide) (by decide) hyear
        simp [hmark]
  have htime : takeTime? bounds text = none := by
    unfold takeTime?
    cases hhour : takeNumber? 2 text with
    | none => rfl
    | some hour =>
        have hmark := after?_of_numeral htext (show isDigit ':' = false by decide) (by decide) hhour
        simp [hmark]
  simp [readMoment?, hdate, htime]

theorem readReal?_of_numeral (htext : Numeral text v) : readReal? text = none := by
  obtain ⟨sign, digits, hsplit, -, hdigits⟩ := exists_splitSign htext
  have hmark : ∀ c ∈ digits, (!(c = '.' || c = 'e' || c = 'E' : Bool)) = true := by
    intro c hc
    have hdigit := hdigits.isDigit c hc
    have hne : ∀ mark, isDigit mark = false → c ≠ mark := by
      rintro mark hmark rfl
      rw [hdigit] at hmark
      cases hmark
    simp [hne '.' (by decide), hne 'e' (by decide), hne 'E' (by decide)]
  have htake := List.takeWhile_eq_self_iff.mpr hmark
  have hdrop := List.dropWhile_eq_nil_iff.mpr hmark
  simp only [readReal?, hsplit, htake, hdrop, plainDigits?_of_digits hdigits, Option.bind_eq_bind,
    Option.bind_some]
  split <;> rfl

theorem readSpecial?_of_numeral (htext : Numeral text v) : readSpecial? text = none := by
  obtain ⟨sign, digits, hsplit, -, hdigits⟩ := exists_splitSign htext
  unfold readSpecial?
  rw [hsplit]
  dsimp only
  split
  · exact absurd (hdigits.isDigit 'i' List.mem_cons_self) (by decide)
  · exact absurd (hdigits.isDigit 'n' List.mem_cons_self) (by decide)
  · rfl

/-- **A token that is a numeral is read as its number, if at all**, and only if that has 64 bits. -/
theorem readToken?_of_numeral (htext : Numeral text v) {value : Toml}
    (hread : readToken? text = some value) : value = .integer v ∧ IsSigned64 v := by
  have hletter : ∀ c : Char, ¬ c.toNat < 0x41 → c ∉ text := fun c hc hmem =>
    hc (htext.lt_of_mem c hmem)
  unfold readToken? at hread
  split at hread
  · exact absurd (by simp) (hletter 't' (by decide))
  · exact absurd (by simp) (hletter 'f' (by decide))
  · exact absurd (by simp) (hletter 'x' (by decide))
  · exact absurd (by simp) (hletter 'o' (by decide))
  · exact absurd (by simp) (hletter 'b' (by decide))
  · simp only [List.findSome?_cons, readMoment?_of_numeral htext, readReal?_of_numeral htext,
      readSpecial?_of_numeral htext, List.findSome?_nil] at hread
    cases hinteger : readInteger? text with
    | none => simp [hinteger] at hread
    | some integer =>
        obtain rfl : integer = value := by simpa [hinteger] using hread
        exact readInteger?_of_numeral htext hinteger

end HourlyIngest.Toml
