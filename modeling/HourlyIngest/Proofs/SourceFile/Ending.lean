import HourlyIngest.Proofs.SourceFile.Listing
import HourlyIngest.Proofs.Text.Lossy

/-!
# Which names are those of source files

The test for the ending puts the whole name into lower case first, by rules that know all of
Unicode.  It comes to the same as a look at the last four characters: a dot, and the letters c, s
and v of ASCII, each of them small or capital (`isCsvName_iff_ascii`).  A directory holds names of
bytes, which need not be text; for them it comes to a look at the last four bytes.
-/

namespace HourlyIngest.Text

theorem toNat_lowerAscii (c : Char) :
    (lowerAscii c).toNat =
      if 0x41 ≤ c.toNat ∧ c.toNat ≤ 0x5A then c.toNat + 0x20 else c.toNat := by
  simp only [lowerAscii, Bool.and_eq_true, decide_eq_true_eq]
  split
  · have hvalid : (c.toNat + 0x20).isValidChar := Or.inl (by omega)
    rw [Char.ofNat, dif_pos hvalid]
    rfl
  · rfl

/-- A small letter is the lower-case form of itself and of its capital among the ASCII letters. -/
theorem lowerAscii_eq_small_iff {c small capital : Char}
    (hsmall : 0x61 ≤ small.toNat ∧ small.toNat ≤ 0x7A)
    (hcapital : capital.toNat + 0x20 = small.toNat) :
    lowerAscii c = small ↔ c = small ∨ c = capital := by
  simp only [← Char.toNat_inj, toNat_lowerAscii]
  split <;> omega

/-- A character before the letters is the lower-case form of itself alone. -/
theorem lowerAscii_eq_iff_of_lt {c x : Char} (hx : x.toNat < 0x41) : lowerAscii c = x ↔ c = x := by
  simp only [← Char.toNat_inj, toNat_lowerAscii]
  split <;> omega

end HourlyIngest.Text

namespace HourlyIngest.SourceFile

open Text

theorem map_lowerAscii_eq_ending_iff {tail : List Char} :
    tail.map lowerAscii = ending ↔
      ∃ c s v, tail = ['.', c, s, v] ∧
        (c = 'c' ∨ c = 'C') ∧ (s = 's' ∨ s = 'S') ∧ (v = 'v' ∨ v = 'V') := by
  have hdot : ∀ {c}, lowerAscii c = '.' ↔ c = '.' := lowerAscii_eq_iff_of_lt (by decide)
  have hc : ∀ {c}, lowerAscii c = 'c' ↔ c = 'c' ∨ c = 'C' :=
    lowerAscii_eq_small_iff (by decide) (by decide)
  have hs : ∀ {s}, lowerAscii s = 's' ↔ s = 's' ∨ s = 'S' :=
    lowerAscii_eq_small_iff (by decide) (by decide)
  have hv : ∀ {v}, lowerAscii v = 'v' ↔ v = 'v' ∨ v = 'V' :=
    lowerAscii_eq_small_iff (by decide) (by decide)
  constructor
  · intro htail
    simp only [ending, List.map_eq_cons_iff, List.map_eq_nil_iff, hdot, hc, hs, hv] at htail
    obtain ⟨_, _, rfl, rfl, c, _, rfl, hc, s, _, rfl, hs, v, _, rfl, hv, rfl⟩ := htail
    exact ⟨c, s, v, rfl, hc, hs, hv⟩
  · rintro ⟨c, s, v, rfl, hcase⟩
    simp only [List.map_cons, List.map_nil, ending, List.cons.injEq, hdot, hc, hs, hv, hcase,
      and_self]

/-- The characters of the ending are ASCII characters, however it is written. -/
theorem ascii_of_mem_ending {c s v x : Char} (hc : c = 'c' ∨ c = 'C') (hs : s = 's' ∨ s = 'S')
    (hv : v = 'v' ∨ v = 'V') (hx : x ∈ ['.', c, s, v]) : x.toNat < 0x80 := by
  simp only [List.mem_cons, List.not_mem_nil, or_false] at hx
  rcases hx with rfl | rfl | rfl | rfl
  · decide
  · rcases hc with rfl | rfl <;> decide
  · rcases hs with rfl | rfl <;> decide
  · rcases hv with rfl | rfl <;> decide

theorem isCsvName_iff_suffix {name : String} :
    isCsvName name = true ↔
      ∃ c s v, ['.', c, s, v] <:+ name.toList ∧
        (c = 'c' ∨ c = 'C') ∧ (s = 's' ∨ s = 'S') ∧ (v = 'v' ∨ v = 'V') := by
  have hlower : ending.map lowerAscii = ending := by decide
  rw [isCsvName_eq_true_iff, HasEnding]
  simp only [equalAsciiCase, beq_iff_eq, hlower, map_lowerAscii_eq_ending_iff]
  constructor
  · rintro ⟨_, htail, c, s, v, rfl, hcase⟩
    exact ⟨c, s, v, htail, hcase⟩
  · rintro ⟨c, s, v, htail, hcase⟩
    exact ⟨_, htail, c, s, v, rfl, hcase⟩

/-- **The test for source files looks at the last four characters**, and takes no others than a dot
and the ASCII letters c, s and v, each small or capital.  A name of bytes passes it, read as text
leniently, exactly if its last four bytes are those of such characters. -/
theorem isCsvName_iff_ascii :
    (∀ name : String, isCsvName name = true ↔
      ∃ stem c s v, name.toList = stem ++ ['.', c, s, v] ∧
        (c = 'c' ∨ c = 'C') ∧ (s = 's' ∨ s = 'S') ∧ (v = 'v' ∨ v = 'V')) ∧
    ∀ bytes : Bytes, isCsvName (lossy bytes) = true ↔
      ∃ stem c s v, bytes = stem ++ encode (String.ofList ['.', c, s, v]) ∧
        (c = 'c' ∨ c = 'C') ∧ (s = 's' ∨ s = 'S') ∧ (v = 'v' ∨ v = 'V') := by
  constructor
  · intro name
    rw [isCsvName_iff_suffix]
    constructor
    · rintro ⟨c, s, v, ⟨stem, hstem⟩, hcase⟩
      exact ⟨stem, c, s, v, hstem.symm, hcase⟩
    · rintro ⟨stem, c, s, v, hname, hcase⟩
      exact ⟨c, s, v, ⟨stem, hname.symm⟩, hcase⟩
  · intro bytes
    rw [isCsvName_iff_suffix]
    constructor
    · rintro ⟨c, s, v, htail, hc, hs, hv⟩
      obtain ⟨stem, hstem⟩ :=
        (suffix_lossy_iff (fun x hx => ascii_of_mem_ending hc hs hv hx) bytes).mp htail
      exact ⟨stem, c, s, v, hstem.symm, hc, hs, hv⟩
    · rintro ⟨stem, c, s, v, hbytes, hc, hs, hv⟩
      have htail := (suffix_lossy_iff (fun x hx => ascii_of_mem_ending hc hs hv hx) bytes).mpr
        ⟨stem, hbytes.symm⟩
      exact ⟨c, s, v, htail, hc, hs, hv⟩

/-- The case of all other letters is of no account, and a letter that is an S in capitals is none of
the three. -/
example : isCsvName "ΟΔΟΣ.cSv" = true ∧ isCsvName "a.cſv" = false := by
  decide +kernel

end HourlyIngest.SourceFile
