import HourlyIngest.Text.Case

/-!
# Lower-casing twice

A text in lower case stays as it is when it is lower-cased again (`lowercase_lowercase`).  That does
not follow from the form of the rules: a run of capitals could well lead to characters that another
run, or the same one, takes for capitals.  It is a property of the table, which is checked there for
each two runs by their ends and strides (`settled_lowerRuns`).
-/

namespace HourlyIngest.Text

/-- The character is its own lower-case form wherever it stands. -/
def IsLower (c : Char) : Prop :=
  c.toNat ≠ 0x3A3 ∧ lowerChar c = [c]

theorem lowercaseAfter_of_isLower {text : List Char} (before : List Char)
    (htext : ∀ c ∈ text, IsLower c) : lowercaseAfter before text = text := by
  induction text generalizing before with
  | nil => rfl
  | cons c text ih =>
      rw [List.forall_mem_cons] at htext
      rw [lowercaseAfter, if_neg htext.1.1, htext.1.2, ih _ htext.2]
      rfl

/-! ## Runs -/

/-- What the ends of two runs say: no character that the first one leads to is a capital of the
second one. -/
def CaseRun.apart (run other : CaseRun) : Bool :=
  run.target + (run.last - run.first) < other.first || other.last < run.target ||
    ((run.stride == 2 || run.first == run.last) && other.stride == 2 &&
      run.target % 2 != other.first % 2)

theorem covers_eq_false_of_apart {run other : CaseRun} (hapart : run.apart other = true) {n : Nat}
    (hcovers : run.covers n = true) : other.covers (run.target + (n - run.first)) = false := by
  simp only [CaseRun.covers, Bool.and_eq_true, decide_eq_true_eq, beq_iff_eq] at hcovers
  simp only [CaseRun.apart, Bool.or_eq_true, Bool.and_eq_true, decide_eq_true_eq, beq_iff_eq,
    bne_iff_ne] at hapart
  rw [← Bool.not_eq_true]
  intro hother
  simp only [CaseRun.covers, Bool.and_eq_true, decide_eq_true_eq, beq_iff_eq] at hother
  rcases hapart with (hbelow | habove) | ⟨⟨hstride, hother2⟩, hparity⟩
  · omega
  · omega
  · -- the characters of the first run keep to one parity, the capitals of the second to the other
    rw [hother2] at hother
    rcases hstride with hstride | hsingle
    · rw [hstride] at hcovers
      omega
    · omega

/-- A run leads to characters that no run takes for capitals, and that no other rule changes. -/
def CaseRun.settled (run : CaseRun) : Bool :=
  let last := run.target + (run.last - run.first)
  lowerRuns.all run.apart && 0x5A < run.target && (last < 0x130 || 0x130 < run.target) &&
    (last < 0xD800 || 0xDFFF < run.target && last < 0x110000)

theorem settled_lowerRuns : lowerRuns.all CaseRun.settled = true := by
  decide +kernel

/-- The capital sigma belongs to a run. -/
theorem any_covers_sigma : lowerRuns.any (·.covers 0x3A3) = true := by
  decide +kernel

theorem lowerAscii_of_lt {c : Char} (hc : 0x5A < c.toNat) : lowerAscii c = c := by
  unfold lowerAscii
  rw [if_neg]
  simp only [Bool.and_eq_true, decide_eq_true_eq]
  omega

/-- What no run takes for a capital is in lower case. -/
theorem isLower_of_uncovered {c : Char} (hcapital : 0x5A < c.toNat) (hdotted : c.toNat ≠ 0x130)
    (hnone : ∀ run ∈ lowerRuns, run.covers c.toNat = false) : IsLower c := by
  constructor
  · intro hsigma
    obtain ⟨run, hrun, hcovers⟩ := List.any_eq_true.mp any_covers_sigma
    rw [← hsigma, hnone run hrun] at hcovers
    cases hcovers
  · unfold lowerChar
    rw [lowerAscii_of_lt hcapital, if_neg hdotted, List.find?_eq_none.mpr (by simpa using hnone)]
    simp

/-- The characters that the rules for single capitals lead to. -/
theorem uncovered_special : ∀ n ∈ [0x307, 0x3C2, 0x3C3],
    lowerRuns.all (fun run => !run.covers n) = true := by
  decide +kernel

theorem isLower_of_mem_special {c : Char} (hc : c.toNat ∈ [0x307, 0x3C2, 0x3C3]) : IsLower c := by
  have hrange : ∀ n ∈ [0x307, 0x3C2, 0x3C3], 0x5A < n ∧ n ≠ 0x130 := by decide
  obtain ⟨hcapital, hdotted⟩ := hrange c.toNat hc
  apply isLower_of_uncovered hcapital hdotted
  simpa using uncovered_special c.toNat hc

/-- The number that a run leads to is that of a character. -/
theorem toNat_target {run : CaseRun} (hrun : run ∈ lowerRuns) {n : Nat}
    (hcovers : run.covers n = true) :
    (Char.ofNat (run.target + (n - run.first))).toNat = run.target + (n - run.first) := by
  have hsettled := List.all_eq_true.mp settled_lowerRuns run hrun
  simp only [CaseRun.settled, Bool.and_eq_true, Bool.or_eq_true, decide_eq_true_eq] at hsettled
  obtain ⟨-, hvalid⟩ := hsettled
  simp only [CaseRun.covers, Bool.and_eq_true, decide_eq_true_eq] at hcovers
  have hvalid' : (run.target + (n - run.first)).isValidChar := by
    unfold Nat.isValidChar
    omega
  rw [Char.ofNat, dif_pos hvalid']
  rfl

theorem isLower_of_settled {run : CaseRun} (hrun : run ∈ lowerRuns) {n : Nat}
    (hcovers : run.covers n = true) : IsLower (Char.ofNat (run.target + (n - run.first))) := by
  have hm := toNat_target hrun hcovers
  have hsettled := List.all_eq_true.mp settled_lowerRuns run hrun
  simp only [CaseRun.settled, Bool.and_eq_true, Bool.or_eq_true, decide_eq_true_eq,
    List.all_eq_true] at hsettled
  obtain ⟨⟨⟨hapart, hcapital⟩, hdotted⟩, -⟩ := hsettled
  have hnone : ∀ other ∈ lowerRuns, other.covers (run.target + (n - run.first)) = false :=
    fun other hother => covers_eq_false_of_apart (hapart other hother) hcovers
  have hrange : run.target ≤ run.target + (n - run.first) ∧
      run.target + (n - run.first) ≤ run.target + (run.last - run.first) := by
    simp only [CaseRun.covers, Bool.and_eq_true, decide_eq_true_eq] at hcovers
    omega
  apply isLower_of_uncovered
  all_goals rw [hm]
  · omega
  · omega
  · exact hnone

/-! ## Characters and texts -/

theorem isLower_lowerAscii {c : Char} (hc : c.toNat < 0x80) : IsLower (lowerAscii c) := by
  have hall : ∀ n < 0x80, (lowerAscii (Char.ofNat n)).toNat < 0x80 ∧
      lowerAscii (lowerAscii (Char.ofNat n)) = lowerAscii (Char.ofNat n) := by
    decide +kernel
  have hascii := hall c.toNat hc
  rw [Char.ofNat_toNat] at hascii
  refine ⟨by omega, ?_⟩
  rw [lowerChar, if_pos hascii.1, hascii.2]

theorem isLower_of_mem_lowerChar {c lower : Char} (hlower : lower ∈ lowerChar c) :
    IsLower lower := by
  unfold lowerChar at hlower
  split at hlower
  · next hascii =>
    rw [List.mem_singleton.mp hlower]
    exact isLower_lowerAscii hascii
  · split at hlower
    · -- the dotted capital I has a form of two characters
      rcases List.mem_cons.mp hlower with rfl | hmark
      · exact isLower_lowerAscii (c := 'i') (by decide)
      · rw [List.mem_singleton.mp hmark]
        exact isLower_of_mem_special (by decide)
    · next hascii hdotted =>
      cases hfind : lowerRuns.find? (·.covers c.toNat) with
      | some run =>
          rw [hfind] at hlower
          have hcovers : run.covers c.toNat = true := by simpa using List.find?_some hfind
          rw [List.mem_singleton.mp hlower]
          exact isLower_of_settled (List.mem_of_find?_eq_some hfind) hcovers
      | none =>
          rw [hfind] at hlower
          obtain rfl := List.mem_singleton.mp hlower
          exact isLower_of_uncovered (by omega) hdotted (by simpa using hfind)

theorem isLower_of_mem_lowercaseAfter {before text : List Char} {lower : Char}
    (hlower : lower ∈ lowercaseAfter before text) : IsLower lower := by
  induction text generalizing before with
  | nil => cases hlower
  | cons c text ih =>
      rw [lowercaseAfter] at hlower
      split at hlower
      · have hsigma : ∀ final : Bool, IsLower (Char.ofNat (if final then 0x3C2 else 0x3C3)) := by
          intro final
          apply isLower_of_mem_special
          cases final <;> decide
        rcases List.mem_cons.mp hlower with rfl | hrest
        · exact hsigma _
        · exact ih hrest
      · rcases List.mem_append.mp hlower with hfirst | hrest
        · exact isLower_of_mem_lowerChar hfirst
        · exact ih hrest

theorem lowercase_of_isLower {text : String} (htext : ∀ c ∈ text.toList, IsLower c) :
    lowercase text = text := by
  rw [lowercase, lowercaseAfter_of_isLower [] htext, String.ofList_toList]

/-- Characters before the first capital have no case. -/
theorem isLower_of_lt {c : Char} (hc : c.toNat < 0x41) : IsLower c := by
  have hascii : lowerAscii c = c := by
    unfold lowerAscii
    rw [if_neg]
    simp only [Bool.and_eq_true, decide_eq_true_eq]
    omega
  refine ⟨by omega, ?_⟩
  rw [lowerChar, if_pos (by omega), hascii]

/-- **A text in lower case is kept.** -/
theorem lowercase_lowercase (text : String) : lowercase (lowercase text) = lowercase text := by
  refine lowercase_of_isLower fun c hc => ?_
  rw [lowercase, String.toList_ofList] at hc
  exact isLower_of_mem_lowercaseAfter hc

end HourlyIngest.Text
