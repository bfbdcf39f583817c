import HourlyIngest.Proofs.Text.Utf8
import Mathlib.Data.List.Induction

/-!
# The end of bytes that are read leniently

Where a piece of a byte sequence ends may depend on the bytes behind it, and a broken piece stands
for a character that is not in the bytes.  But no ASCII byte is part of another character, and no
broken piece is read as an ASCII character.  So an ASCII byte behind others adds its character and
changes nothing before it (`toList_lossy_concat`), and what was read ends in ASCII characters
exactly if the bytes end in those of the same characters (`suffix_lossy_iff`).
-/

namespace HourlyIngest.Text

/-! ## The head of some bytes -/

/-- The number of bytes that a head takes. -/
def Head.size : Head → Nat
  | .scalar _ size => size
  | .broken size => size

/-- The character of a head, if it is one. -/
def Head.char? : Head → Option Char
  | .scalar c _ => some c
  | .broken _ => none

variable {low high bits size following skip : Nat} {byte last : UInt8} {bytes rest : Bytes}

theorem piecesFrom_cons (offset : Nat) (byte : UInt8) (rest : Bytes) :
    piecesFrom offset 0 (byte :: rest) =
      (offset, (head byte rest).char?) ::
        piecesFrom (offset + 1) ((head byte rest).size - 1) rest := by
  rw [piecesFrom]
  cases head byte rest <;> rfl

theorem size_follow_le (low high bits size following : Nat) (rest : Bytes) :
    (follow low high bits size following rest).size ≤ size + rest.length := by
  induction following generalizing low high bits size rest with
  | zero => exact Nat.le_add_right _ _
  | succ following ih =>
      cases rest with
      | nil => exact Nat.le_refl _
      | cons byte rest =>
          unfold follow
          split
          · have hrest := ih 0x80 0xBF (bits * 64 + (byte.toNat - 0x80)) (size + 1) rest
            rw [List.length_cons]
            omega
          · exact Nat.le_add_right _ _

/-- A head takes no more bytes than there are. -/
theorem size_head_le (byte : UInt8) (rest : Bytes) : (head byte rest).size ≤ rest.length + 1 := by
  unfold head
  split
  · exact Nat.le_add_left _ _
  · rw [Nat.add_comm]
    exact size_follow_le _ _ _ _ _ _

/-! ## An ASCII byte behind others -/

/-- An ASCII byte does not continue a character. -/
theorem follow_concat (hlow : 0x80 ≤ low) (hlast : last.toNat < 0x80) :
    follow low high bits size following (rest ++ [last]) =
      follow low high bits size following rest := by
  induction following generalizing low high bits size rest with
  | zero => rfl
  | succ following ih =>
      cases rest with
      | nil =>
          have hoff : ¬ (low ≤ last.toNat && last.toNat ≤ high) = true := by
            simp only [Bool.and_eq_true, decide_eq_true_eq]
            omega
          rw [List.nil_append]
          unfold follow
          rw [if_neg hoff]
      | cons byte rest => rw [List.cons_append, follow, follow, ih (Nat.le_refl _)]

theorem head_concat (hlast : last.toNat < 0x80) : head byte (rest ++ [last]) = head byte rest := by
  unfold head
  cases hlead : lead? byte with
  | none => rfl
  | some lead =>
      have hlow : 0x80 ≤ lead.low := by
        rcases lead?_cases hlead with ⟨-, rfl⟩ | ⟨-, -, rfl⟩ | ⟨-, -, rfl⟩ | ⟨-, -, rfl⟩
        · exact Nat.le_refl _
        · exact Nat.le_refl _
        · dsimp only
          split <;> omega
        · dsimp only
          split <;> omega
      exact follow_concat hlow hlast

/-- An ASCII byte is its character. -/
theorem head_of_ascii (hlast : last.toNat < 0x80) :
    head last rest = .scalar (Char.ofNat last.toNat) 1 := by
  have hlead := lead?_one (show last.toNat ≤ 0x7F by omega)
  rw [UInt8.ofNat_toNat] at hlead
  rw [head, hlead]
  rfl

theorem map_piecesFrom_concat (hlast : last.toNat < 0x80) (offset : Nat)
    (hskip : skip ≤ bytes.length) :
    (piecesFrom offset skip (bytes ++ [last])).map (·.2) =
      (piecesFrom offset skip bytes).map (·.2) ++ [some (Char.ofNat last.toNat)] := by
  induction bytes generalizing offset skip with
  | nil =>
      obtain rfl : skip = 0 := Nat.le_zero.mp hskip
      rw [List.nil_append, piecesFrom_cons, head_of_ascii hlast]
      rfl
  | cons byte bytes ih =>
      cases skip with
      | zero =>
          have hsize := size_head_le byte bytes
          rw [List.cons_append, piecesFrom_cons, piecesFrom_cons, head_concat hlast, List.map_cons,
            List.map_cons, ih _ (by omega), List.cons_append]
      | succ skip =>
          rw [List.cons_append, piecesFrom, piecesFrom]
          exact ih _ (Nat.le_of_succ_le_succ hskip)

theorem toList_lossy (bytes : Bytes) :
    (lossy bytes).toList =
      ((pieces bytes).map (·.2)).map fun piece => piece.getD (Char.ofNat 0xFFFD) := by
  rw [lossy, String.toList_ofList, List.map_map]
  rfl

/-- An ASCII byte adds its character, whatever stands before it. -/
theorem toList_lossy_concat (bytes : Bytes) (hlast : last.toNat < 0x80) :
    (lossy (bytes ++ [last])).toList = (lossy bytes).toList ++ [Char.ofNat last.toNat] := by
  rw [toList_lossy, toList_lossy, pieces, pieces,
    map_piecesFrom_concat hlast 0 (Nat.zero_le _), List.map_append]
  rfl

/-! ## An ASCII character at the end -/

/-- A head that is an ASCII character is one byte. -/
theorem size_head_of_ascii {c : Char} (hc : c.toNat < 0x80)
    (hchar : (head byte rest).char? = some c) :
    byte = UInt8.ofNat c.toNat ∧ (head byte rest).size = 1 := by
  cases hhead : head byte rest with
  | broken size =>
      rw [hhead] at hchar
      cases hchar
  | scalar other size =>
      rw [hhead] at hchar
      obtain rfl : other = c := Option.some.inj hchar
      obtain ⟨tail, after, -, hbytes, rfl⟩ := exists_of_head hhead
      rw [encodeChar_of_ascii hc] at hbytes
      obtain ⟨rfl, rfl⟩ := List.cons.inj hbytes
      exact ⟨rfl, rfl⟩

/-- If the last piece is an ASCII character, the last byte is the byte of this character. -/
theorem getLast?_of_piecesFrom {c : Char} (hc : c.toNat < 0x80) {offset : Nat}
    (hlast : ((piecesFrom offset skip bytes).map (·.2)).getLast? = some (some c)) :
    bytes.getLast? = some (UInt8.ofNat c.toNat) := by
  induction bytes generalizing offset skip with
  | nil =>
      rw [piecesFrom] at hlast
      cases hlast
  | cons byte bytes ih =>
      cases skip with
      | succ skip =>
          rw [piecesFrom] at hlast
          rw [List.getLast?_cons, ih hlast]
          rfl
      | zero =>
          rw [piecesFrom_cons, List.map_cons, List.getLast?_cons] at hlast
          cases hlater : ((piecesFrom (offset + 1) ((head byte bytes).size - 1) bytes).map
              (·.2)).getLast? with
          | some piece =>
              rw [hlater] at hlast
              obtain rfl : piece = some c := Option.some.inj hlast
              rw [List.getLast?_cons, ih hlater]
              rfl
          | none =>
              -- the first piece is the last one, and no bytes are left behind it
              rw [hlater] at hlast
              obtain ⟨rfl, hsize⟩ := size_head_of_ascii hc (Option.some.inj hlast)
              rw [hsize, List.getLast?_eq_none_iff, List.map_eq_nil_iff] at hlater
              cases bytes with
              | nil => rfl
              | cons next bytes =>
                  rw [Nat.sub_self, piecesFrom_cons] at hlater
                  cases hlater

theorem exists_concat_of_lossy {c : Char} (hc : c.toNat < 0x80) {front : List Char}
    (htext : (lossy bytes).toList = front ++ [c]) :
    ∃ stem, bytes = stem ++ [UInt8.ofNat c.toNat] := by
  have hlast : (((pieces bytes).map (·.2)).map
      fun piece => piece.getD (Char.ofNat 0xFFFD)).getLast? = some c := by
    rw [← toList_lossy, htext, List.getLast?_concat]
  rw [List.getLast?_map, Option.map_eq_some_iff] at hlast
  obtain ⟨piece, hpiece, hchar⟩ := hlast
  cases piece with
  | none =>
      rw [← hchar] at hc
      exact absurd hc (by decide)
  | some other =>
      obtain rfl : other = c := hchar
      exact List.getLast?_eq_some_iff.mp (getLast?_of_piecesFrom hc hpiece)

/-- **What was read ends in ASCII characters exactly if the bytes end in theirs.** -/
theorem suffix_lossy_iff {tail : List Char} (htail : ∀ c ∈ tail, c.toNat < 0x80) (bytes : Bytes) :
    tail <:+ (lossy bytes).toList ↔ encode (String.ofList tail) <:+ bytes := by
  rw [encode, String.toList_ofList]
  induction tail using List.reverseRec generalizing bytes with
  | nil => simp
  | append_singleton tail c ih =>
      rw [List.forall_mem_append, List.forall_mem_singleton] at htail
      obtain ⟨htail, hc⟩ := htail
      have hbyte : (UInt8.ofNat c.toNat).toNat = c.toNat := toNat_ofNat_of_lt (by omega)
      have hconcat : ∀ stem, (lossy (stem ++ [UInt8.ofNat c.toNat])).toList =
          (lossy stem).toList ++ [c] := by
        intro stem
        rw [toList_lossy_concat stem (by omega), hbyte, Char.ofNat_toNat]
      rw [List.flatMap_append, List.flatMap_singleton, encodeChar_of_ascii hc]
      constructor
      · rintro ⟨front, hfront⟩
        rw [← List.append_assoc] at hfront
        obtain ⟨stem, rfl⟩ := exists_concat_of_lossy hc hfront.symm
        rw [hconcat, List.append_cancel_right_eq] at hfront
        obtain ⟨start, rfl⟩ := (ih htail stem).mp ⟨front, hfront⟩
        exact ⟨start, (List.append_assoc _ _ _).symm⟩
      · rintro ⟨stem, rfl⟩
        obtain ⟨front, hfront⟩ := (ih htail _).mpr (List.suffix_append stem _)
        rw [← List.append_assoc, hconcat, ← hfront]
        exact ⟨front, (List.append_assoc _ _ _).symm⟩

end HourlyIngest.Text
