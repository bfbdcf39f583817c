import HourlyIngest.Proofs.Text.Case
import Mathlib.Data.List.Basic

/-!
# The end of a text in lower case

Lower-casing may change the length of a text, give a character a form that depends on its
neighbours, and turn characters beyond ASCII into ASCII letters.  But it does the last to two
letters alone, `i` and `k` (`lowerRuns_ascii`).  Every other ASCII character of the result stands
alone for one character of the text, of which it is the form that ASCII knows (`eq_of_mem_lowerAt`).
So a text in lower case ends in such characters exactly if the text ends in them, the case of ASCII
letters aside (`suffix_lowercaseAfter_iff`).
-/

namespace HourlyIngest.Text

/-! ## One character -/

/-- An ASCII character that is not in the lower-case form of any character beyond ASCII. -/
def Secluded (x : Char) : Prop :=
  x.toNat < 0x80 ∧ x ≠ 'i' ∧ x ≠ 'k'

/-- Beyond ASCII, one run leads to an ASCII letter: that of the Kelvin sign. -/
theorem lowerRuns_ascii : ∀ run ∈ lowerRuns,
    run.last < 0x80 ∨ 0x80 ≤ run.target ∨ run.first = run.last ∧ run.target = 0x6B := by
  decide +kernel

theorem ascii_of_mem_lowerChar {x c : Char} (hx : Secluded x) (hmem : x ∈ lowerChar c) :
    c.toNat < 0x80 := by
  obtain ⟨hascii, hi, hk⟩ := hx
  by_contra hbeyond
  rw [lowerChar, if_neg hbeyond] at hmem
  split at hmem
  · -- the dotted capital I
    rcases List.mem_cons.mp hmem with rfl | hmark
    · exact hi rfl
    · rw [List.mem_singleton.mp hmark] at hascii
      exact absurd hascii (by decide)
  · cases hfind : lowerRuns.find? (·.covers c.toNat) with
    | none =>
        rw [hfind] at hmem
        rw [List.mem_singleton.mp hmem] at hascii
        exact hbeyond hascii
    | some run =>
        rw [hfind] at hmem
        have hrun := List.mem_of_find?_eq_some hfind
        have hcovers : run.covers c.toNat = true := by simpa using List.find?_some hfind
        have htarget := toNat_target hrun hcovers
        rw [← List.mem_singleton.mp hmem] at htarget
        simp only [CaseRun.covers, Bool.and_eq_true, decide_eq_true_eq] at hcovers
        rcases lowerRuns_ascii run hrun with hlast | hfar | ⟨hsingle, hkelvin⟩
        · omega
        · omega
        · have hletter : x.toNat = 'k'.toNat := by
            have hvalue : 'k'.toNat = 0x6B := rfl
            omega
          exact hk (Char.toNat_inj.mp hletter)

/-- What stands in the result for one character between its neighbours. -/
def lowerAt (before : List Char) (c : Char) (rest : List Char) : List Char :=
  if c.toNat = 0x3A3 then
    [Char.ofNat (if nextHasCase before && !nextHasCase rest then 0x3C2 else 0x3C3)]
  else lowerChar c

theorem lowercaseAfter_cons (before : List Char) (c : Char) (rest : List Char) :
    lowercaseAfter before (c :: rest) =
      lowerAt before c rest ++ lowercaseAfter (c :: before) rest := by
  rw [lowercaseAfter, lowerAt]
  split <;> rfl

theorem lowerAt_of_ascii {c : Char} (hc : c.toNat < 0x80) (before rest : List Char) :
    lowerAt before c rest = [lowerAscii c] := by
  rw [lowerAt, if_neg (by omega), lowerChar, if_pos hc]

/-- A secluded character stands alone, for a character whose ASCII form it is. -/
theorem eq_of_mem_lowerAt {x c : Char} {before rest : List Char} (hx : Secluded x)
    (hmem : x ∈ lowerAt before c rest) :
    lowerAt before c rest = [x] ∧ lowerAscii c = x := by
  have hascii : c.toNat < 0x80 := by
    unfold lowerAt at hmem
    split at hmem
    · -- neither form of the capital sigma is an ASCII character
      have hsmall := hx.1
      rw [List.mem_singleton.mp hmem] at hsmall
      exact absurd hsmall (by split <;> decide)
    · exact ascii_of_mem_lowerChar hx hmem
  rw [lowerAt_of_ascii hascii] at hmem ⊢
  obtain rfl := List.mem_singleton.mp hmem
  exact ⟨rfl, rfl⟩

theorem ascii_of_secluded {c : Char} (hc : Secluded (lowerAscii c)) : c.toNat < 0x80 := by
  by_contra hbeyond
  have hsmall := hc.1
  rw [lowerAscii_of_lt (by omega)] at hsmall
  exact hbeyond hsmall

/-! ## Texts -/

theorem lowercaseAfter_of_secluded {before text : List Char}
    (htext : ∀ x ∈ text.map lowerAscii, Secluded x) :
    lowercaseAfter before text = text.map lowerAscii := by
  induction text generalizing before with
  | nil => rfl
  | cons c text ih =>
      rw [List.map_cons, List.forall_mem_cons] at htext
      rw [lowercaseAfter_cons, lowerAt_of_ascii (ascii_of_secluded htext.1), ih htext.2]
      rfl

theorem lowerAt_ne_nil (before : List Char) (c : Char) (rest : List Char) :
    lowerAt before c rest ≠ [] := by
  unfold lowerAt lowerChar
  split
  · simp
  · split
    · simp
    · split
      · simp
      · split <;> simp

theorem eq_map_of_secluded {before text : List Char}
    (hlower : ∀ x ∈ lowercaseAfter before text, Secluded x) :
    lowercaseAfter before text = text.map lowerAscii := by
  induction text generalizing before with
  | nil => rfl
  | cons c text ih =>
      rw [lowercaseAfter_cons, List.forall_mem_append] at hlower
      obtain ⟨x, hx⟩ := List.exists_mem_of_ne_nil _ (lowerAt_ne_nil before c text)
      obtain ⟨halone, hform⟩ := eq_of_mem_lowerAt (hlower.1 x hx) hx
      rw [lowercaseAfter_cons, halone, ih hlower.2, List.map_cons, hform]
      rfl

/-- What stands for the end of a text is the end of what stands for the whole. -/
theorem suffix_lowercaseAfter_append (before front tail : List Char) :
    ∃ context, lowercaseAfter context tail <:+ lowercaseAfter before (front ++ tail) := by
  induction front generalizing before with
  | nil => exact ⟨before, List.suffix_refl _⟩
  | cons c front ih =>
      obtain ⟨context, hsuffix⟩ := ih (c :: before)
      rw [List.cons_append, lowercaseAfter_cons]
      exact ⟨context, hsuffix.trans (List.suffix_append _ _)⟩

/-- Secluded characters at the end of what stands for one character are all of it. -/
theorem eq_of_suffix_lowerAt {x c : Char} {more before rest : List Char} (hx : Secluded x)
    (hsuffix : x :: more <:+ lowerAt before c rest) : more = [] ∧ lowerAscii c = x := by
  obtain ⟨halone, hform⟩ := eq_of_mem_lowerAt hx (hsuffix.subset List.mem_cons_self)
  rw [halone] at hsuffix
  have hlength := hsuffix.length_le
  exact ⟨by simpa using hlength, hform⟩

/-- **The end of a text in lower case.**  It consists of secluded characters exactly where the text
ends in the same, the case of ASCII letters aside. -/
theorem suffix_lowercaseAfter_iff {ending : List Char} (hending : ∀ x ∈ ending, Secluded x)
    (before text : List Char) :
    ending <:+ lowercaseAfter before text ↔
      ∃ tail, tail <:+ text ∧ tail.map lowerAscii = ending := by
  constructor
  · intro hsuffix
    induction text generalizing before with
    | nil =>
        obtain rfl := List.suffix_nil.mp hsuffix
        exact ⟨[], List.suffix_refl _, rfl⟩
    | cons c text ih =>
        rw [lowercaseAfter_cons] at hsuffix
        rcases List.suffix_or_suffix_of_suffix hsuffix (List.suffix_append _ _) with
          hlater | ⟨front, rfl⟩
        · obtain ⟨tail, htail, hmap⟩ := ih _ hlater
          exact ⟨tail, htail.trans (List.suffix_cons c text), hmap⟩
        · -- the ending covers all that stands for the rest of the text
          rw [List.forall_mem_append] at hending
          rw [eq_map_of_secluded hending.2] at hsuffix ⊢
          cases front with
          | nil => exact ⟨text, List.suffix_cons c text, rfl⟩
          | cons x more =>
              have hfirst : x :: more <:+ lowerAt before c text := by
                obtain ⟨lead, hlead⟩ := hsuffix
                rw [← List.append_assoc, List.append_cancel_right_eq] at hlead
                exact ⟨lead, hlead⟩
              obtain ⟨rfl, rfl⟩ := eq_of_suffix_lowerAt (hending.1 x List.mem_cons_self) hfirst
              exact ⟨c :: text, List.suffix_refl _, rfl⟩
  · rintro ⟨tail, ⟨front, rfl⟩, rfl⟩
    obtain ⟨context, hsuffix⟩ := suffix_lowercaseAfter_append before front tail
    rwa [lowercaseAfter_of_secluded hending] at hsuffix

end HourlyIngest.Text
