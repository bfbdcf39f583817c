import HourlyIngest.Text.Utf8

/-!
# Text that is written is read back

Strict reading undoes writing (`decode_encode`), and what it accepts has been written: bytes are read
as a text exactly if they are the bytes of this text (`decode_eq_ok_iff`).  A character is written
with one byte if it is ASCII and with bytes of 0x80 and above otherwise, so an ASCII byte stands in a
written text exactly where its character stands in the text (`mem_encode_iff`).  Whoever looks for
commas or quotes may therefore look at bytes.
-/

namespace HourlyIngest.Text

/-! ## The bytes of one character -/

/-- How a character is written, by the size of its number. -/
theorem encodeChar_cases (c : Char) :
    (c.toNat ≤ 0x7F ∧ String.utf8EncodeChar c = [UInt8.ofNat c.toNat]) ∨
      (0x80 ≤ c.toNat ∧ c.toNat ≤ 0x7FF ∧ String.utf8EncodeChar c =
        [UInt8.ofNat (c.toNat / 64 % 32 + 0xC0), UInt8.ofNat (c.toNat % 64 + 0x80)]) ∨
      (0x800 ≤ c.toNat ∧ c.toNat ≤ 0xFFFF ∧ String.utf8EncodeChar c =
        [UInt8.ofNat (c.toNat / 4096 % 16 + 0xE0), UInt8.ofNat (c.toNat / 64 % 64 + 0x80),
          UInt8.ofNat (c.toNat % 64 + 0x80)]) ∨
      (0x10000 ≤ c.toNat ∧ String.utf8EncodeChar c =
        [UInt8.ofNat (c.toNat / 262144 % 8 + 0xF0), UInt8.ofNat (c.toNat / 4096 % 64 + 0x80),
          UInt8.ofNat (c.toNat / 64 % 64 + 0x80), UInt8.ofNat (c.toNat % 64 + 0x80)]) := by
  have hval : c.val.toNat = c.toNat := rfl
  unfold String.utf8EncodeChar
  simp only [hval]
  split
  · exact Or.inl ⟨by omega, rfl⟩
  split
  · exact Or.inr (Or.inl ⟨by omega, by omega, rfl⟩)
  split
  · exact Or.inr (Or.inr (Or.inl ⟨by omega, by omega, rfl⟩))
  · exact Or.inr (Or.inr (Or.inr ⟨by omega, rfl⟩))

/-- An ASCII character is written with one byte. -/
theorem encodeChar_of_ascii {c : Char} (hc : c.toNat < 0x80) :
    String.utf8EncodeChar c = [UInt8.ofNat c.toNat] := by
  rcases encodeChar_cases c with ⟨-, hbyte⟩ | ⟨hsize, -⟩ | ⟨hsize, -⟩ | ⟨hsize, -⟩
  · exact hbyte
  all_goals omega

theorem toNat_lt_of_char (c : Char) : c.toNat < 0x110000 := by
  have hvalid : c.toNat < 0xD800 ∨ 0xDFFF < c.toNat ∧ c.toNat < 0x110000 := c.valid
  omega

theorem toNat_ofNat_of_lt {n : Nat} (hn : n < 0x100) : (UInt8.ofNat n).toNat = n := by
  rw [UInt8.toNat_ofNat']
  exact Nat.mod_eq_of_lt hn

section Lead

variable {n : Nat}

theorem lead?_one (hn : n ≤ 0x7F) : lead? (UInt8.ofNat n) = some ⟨0, 0x80, 0xBF, n⟩ := by
  simp only [lead?, toNat_ofNat_of_lt (show n < 0x100 by omega)]
  rw [if_pos (by omega)]

theorem lead?_two (hlow : 2 ≤ n) (hhigh : n < 32) :
    lead? (UInt8.ofNat (n + 0xC0)) = some ⟨1, 0x80, 0xBF, n⟩ := by
  simp only [lead?, toNat_ofNat_of_lt (show n + 0xC0 < 0x100 by omega)]
  rw [if_neg (by omega), if_neg (by omega), if_pos (by omega), Nat.add_sub_cancel]

theorem lead?_three (hn : n < 16) :
    lead? (UInt8.ofNat (n + 0xE0)) =
      some ⟨2, if n = 0 then 0xA0 else 0x80, if n = 13 then 0x9F else 0xBF, n⟩ := by
  have hzero : n + 0xE0 = 0xE0 ↔ n = 0 := by omega
  have hthirteen : n + 0xE0 = 0xED ↔ n = 13 := by omega
  simp only [lead?, toNat_ofNat_of_lt (show n + 0xE0 < 0x100 by omega), hzero, hthirteen]
  rw [if_neg (by omega), if_neg (by omega), if_neg (by omega), if_pos (by omega),
    Nat.add_sub_cancel]

theorem lead?_four (hn : n < 5) :
    lead? (UInt8.ofNat (n + 0xF0)) =
      some ⟨3, if n = 0 then 0x90 else 0x80, if n = 4 then 0x8F else 0xBF, n⟩ := by
  have hzero : n + 0xF0 = 0xF0 ↔ n = 0 := by omega
  have hfour : n + 0xF0 = 0xF4 ↔ n = 4 := by omega
  simp only [lead?, toNat_ofNat_of_lt (show n + 0xF0 < 0x100 by omega), hzero, hfour]
  rw [if_neg (by omega), if_neg (by omega), if_neg (by omega), if_neg (by omega),
    if_pos (by omega), Nat.add_sub_cancel]

end Lead

/-- A further byte of a character gives six bits. -/
theorem follow_ofNat {low high bits size following n : Nat} (hn : n < 64)
    (hlow : low ≤ n + 0x80) (hhigh : n + 0x80 ≤ high) (rest : Bytes) :
    follow low high bits size (following + 1) (UInt8.ofNat (n + 0x80) :: rest) =
      follow 0x80 0xBF (bits * 64 + n) (size + 1) following rest := by
  rw [follow, toNat_ofNat_of_lt (show n + 0x80 < 0x100 by omega), Nat.add_sub_cancel,
    if_pos (by simp [hlow, hhigh])]

/-- The first byte of a character begins this character. -/
theorem head_encodeChar (c : Char) (rest : Bytes) :
    ∃ first tail, String.utf8EncodeChar c = first :: tail ∧
      head first (tail ++ rest) = .scalar c (tail.length + 1) := by
  have hchar : Char.ofNat c.toNat = c := Char.ofNat_toNat c
  have hvalid : c.toNat < 0xD800 ∨ 0xDFFF < c.toNat ∧ c.toNat < 0x110000 := c.valid
  -- the narrowed ranges of the second byte are those that numbers of this size stay in
  rcases encodeChar_cases c with ⟨hhigh, hbytes⟩ | ⟨hlow, hhigh, hbytes⟩ | ⟨hlow, hhigh, hbytes⟩ |
    ⟨hlow, hbytes⟩
  · refine ⟨_, _, hbytes, ?_⟩
    rw [head, lead?_one hhigh]
    simp only [follow, hchar, List.length_nil, Nat.zero_add]
  · refine ⟨_, _, hbytes, ?_⟩
    have hbits : c.toNat / 64 % 32 * 64 + c.toNat % 64 = c.toNat := by omega
    rw [head, lead?_two (by omega) (by omega)]
    simp only [List.cons_append, List.nil_append]
    rw [follow_ofNat (by omega) (by omega) (by omega), hbits, follow, hchar]
    rfl
  · refine ⟨_, _, hbytes, ?_⟩
    have hbits : (c.toNat / 4096 % 16 * 64 + c.toNat / 64 % 64) * 64 + c.toNat % 64 =
        c.toNat := by omega
    rw [head, lead?_three (by omega)]
    simp only [List.cons_append, List.nil_append]
    rw [follow_ofNat (by omega) (by split <;> omega) (by split <;> omega),
      follow_ofNat (by omega) (by omega) (by omega), hbits, follow, hchar]
    rfl
  · refine ⟨_, _, hbytes, ?_⟩
    have hbits : ((c.toNat / 262144 % 8 * 64 + c.toNat / 4096 % 64) * 64 +
        c.toNat / 64 % 64) * 64 + c.toNat % 64 = c.toNat := by omega
    rw [head, lead?_four (by omega)]
    simp only [List.cons_append, List.nil_append]
    rw [follow_ofNat (by omega) (by split <;> omega) (by split <;> omega),
      follow_ofNat (by omega) (by omega) (by omega),
      follow_ofNat (by omega) (by omega) (by omega), hbits, follow, hchar]
    rfl

/-- An ASCII byte is written for its own character only. -/
theorem mem_encodeChar_iff {byte : UInt8} (hbyte : byte.toNat < 0x80) {c : Char} :
    byte ∈ String.utf8EncodeChar c ↔ c.toNat = byte.toNat := by
  have hother : ∀ {n : Nat}, 0x80 ≤ n → n < 0x100 → byte ≠ UInt8.ofNat n := by
    rintro n hn hlt rfl
    rw [toNat_ofNat_of_lt hlt] at hbyte
    omega
  have hvalid := toNat_lt_of_char c
  rcases encodeChar_cases c with ⟨hhigh, hbytes⟩ | ⟨hlow, hhigh, hbytes⟩ | ⟨hlow, hhigh, hbytes⟩ |
    ⟨hlow, hbytes⟩
  · rw [hbytes, List.mem_singleton, ← UInt8.toNat_inj, toNat_ofNat_of_lt (by omega), eq_comm]
  all_goals
    refine iff_of_false ?_ (by omega)
    rw [hbytes]
    simp only [List.mem_cons, List.not_mem_nil, or_false, not_or]
  · exact ⟨hother (by omega) (by omega), hother (by omega) (by omega)⟩
  · exact ⟨hother (by omega) (by omega), hother (by omega) (by omega),
      hother (by omega) (by omega)⟩
  · exact ⟨hother (by omega) (by omega), hother (by omega) (by omega),
      hother (by omega) (by omega), hother (by omega) (by omega)⟩

/-! ## The pieces of a written text -/

/-- Bytes of a piece that has been reported are passed over. -/
theorem piecesFrom_skip (offset : Nat) (skipped rest : Bytes) :
    piecesFrom offset skipped.length (skipped ++ rest) =
      piecesFrom (offset + skipped.length) 0 rest := by
  induction skipped generalizing offset with
  | nil => rfl
  | cons byte skipped ih =>
      rw [List.length_cons, List.cons_append, piecesFrom, ih]
      congr 1
      omega

/-- The first piece of a text is its first character. -/
theorem piecesFrom_encodeChar (offset : Nat) (c : Char) (rest : Bytes) :
    piecesFrom offset 0 (String.utf8EncodeChar c ++ rest) =
      (offset, some c) :: piecesFrom (offset + (String.utf8EncodeChar c).length) 0 rest := by
  obtain ⟨first, tail, hbytes, hhead⟩ := head_encodeChar c rest
  rw [hbytes, List.cons_append, piecesFrom, hhead]
  simp only [Nat.add_sub_cancel, List.length_cons]
  rw [piecesFrom_skip, Nat.add_assoc, Nat.add_comm 1]

/-- The pieces of a written text are its characters. -/
theorem map_piecesFrom_encode (offset : Nat) (chars : List Char) :
    (piecesFrom offset 0 (chars.flatMap String.utf8EncodeChar)).map (·.2) = chars.map some := by
  induction chars generalizing offset with
  | nil => rfl
  | cons c chars ih =>
      rw [List.flatMap_cons, piecesFrom_encodeChar, List.map_cons, ih]
      rfl

theorem firstBroken?_encode (text : String) : firstBroken? (encode text) = none := by
  refine List.findSome?_eq_none_iff.mpr fun ⟨offset, piece⟩ hpiece => ?_
  have hmem : piece ∈ (pieces (encode text)).map (·.2) := List.mem_map_of_mem hpiece
  rw [pieces, encode, map_piecesFrom_encode] at hmem
  obtain ⟨c, -, rfl⟩ := List.mem_map.mp hmem
  rfl

/-- Text that is written is read back. -/
theorem decode_encode (text : String) : decode (encode text) = .ok text := by
  have hmap : (pieces (encode text)).map (·.2) = text.toList.map some :=
    map_piecesFrom_encode 0 text.toList
  have hchars : (pieces (encode text)).filterMap (·.2) = text.toList := by
    have hid : (pieces (encode text)).filterMap (·.2) =
        ((pieces (encode text)).map (·.2)).filterMap id := by
      rw [List.filterMap_map]
      rfl
    rw [hid, hmap, List.filterMap_map]
    exact List.filterMap_some
  rw [decode, firstBroken?_encode, hchars, String.ofList_toList]

/-- Different texts have different bytes. -/
theorem encode_injective : Function.Injective encode := by
  intro text other heq
  have hdecode := decode_encode text
  rw [heq, decode_encode] at hdecode
  exact (Except.ok.inj hdecode).symm

theorem encode_eq_nil_iff {text : String} : encode text = [] ↔ text = "" :=
  ⟨fun hnil => encode_injective hnil, fun hempty => hempty ▸ rfl⟩

/-- An ASCII byte stands in a written text exactly where its character stands in the text. -/
theorem mem_encode_iff {byte : UInt8} (hbyte : byte.toNat < 0x80) {text : String} :
    byte ∈ encode text ↔ Char.ofNat byte.toNat ∈ text.toList := by
  rw [encode, List.mem_flatMap]
  constructor
  · rintro ⟨c, hc, hmem⟩
    rw [← (mem_encodeChar_iff hbyte).mp hmem, Char.ofNat_toNat]
    exact hc
  · intro hc
    have hvalid : byte.toNat.isValidChar := Or.inl (by omega)
    refine ⟨_, hc, (mem_encodeChar_iff hbyte).mpr ?_⟩
    rw [Char.ofNat, dif_pos hvalid]
    rfl

/-! ## Nothing else is read -/

/-- What a first byte can promise. -/
theorem lead?_cases {byte : UInt8} {lead : Lead} (hlead : lead? byte = some lead) :
    (byte.toNat < 0x80 ∧ lead = ⟨0, 0x80, 0xBF, byte.toNat⟩) ∨
      (0xC2 ≤ byte.toNat ∧ byte.toNat < 0xE0 ∧ lead = ⟨1, 0x80, 0xBF, byte.toNat - 0xC0⟩) ∨
      (0xE0 ≤ byte.toNat ∧ byte.toNat < 0xF0 ∧
        lead = ⟨2, if byte.toNat = 0xE0 then 0xA0 else 0x80,
          if byte.toNat = 0xED then 0x9F else 0xBF, byte.toNat - 0xE0⟩) ∨
      (0xF0 ≤ byte.toNat ∧ byte.toNat < 0xF5 ∧
        lead = ⟨3, if byte.toNat = 0xF0 then 0x90 else 0x80,
          if byte.toNat = 0xF4 then 0x8F else 0xBF, byte.toNat - 0xF0⟩) := by
  simp only [lead?] at hlead
  split at hlead
  · next hone => exact Or.inl ⟨hone, (Option.some.inj hlead).symm⟩
  split at hlead
  · cases hlead
  split at hlead
  · exact Or.inr (Or.inl ⟨by omega, by omega, (Option.some.inj hlead).symm⟩)
  split at hlead
  · exact Or.inr (Or.inr (Or.inl ⟨by omega, by omega, (Option.some.inj hlead).symm⟩))
  split at hlead
  · exact Or.inr (Or.inr (Or.inr ⟨by omega, by omega, (Option.some.inj hlead).symm⟩))
  · cases hlead

section Head

variable {low high bits size following n : Nat} {c : Char} {byte : UInt8} {rest : Bytes}

/-- A character that needs a further byte has one, and it lies in the range. -/
theorem exists_of_follow (hfollow : follow low high bits size (following + 1) rest = .scalar c n) :
    ∃ next tail, rest = next :: tail ∧ low ≤ next.toNat ∧ next.toNat ≤ high ∧
      follow 0x80 0xBF (bits * 64 + (next.toNat - 0x80)) (size + 1) following tail =
        .scalar c n := by
  cases rest with
  | nil => cases hfollow
  | cons next tail =>
      rw [follow] at hfollow
      split at hfollow
      · next hrange =>
        rw [Bool.and_eq_true, decide_eq_true_eq, decide_eq_true_eq] at hrange
        exact ⟨next, tail, rfl, hrange.1, hrange.2, hfollow⟩
      · cases hfollow

/-- A character that needs no further byte. -/
theorem eq_of_follow (hfollow : follow low high bits size 0 rest = .scalar c n)
    (hvalid : bits.isValidChar) : c.toNat = bits ∧ n = size := by
  rw [follow, Head.scalar.injEq] at hfollow
  obtain ⟨rfl, rfl⟩ := hfollow
  refine ⟨?_, rfl⟩
  rw [Char.ofNat, dif_pos hvalid]
  rfl

theorem ofNat_eq_of_toNat (byte : UInt8) (hn : byte.toNat = n) : UInt8.ofNat n = byte := by
  rw [← hn, UInt8.ofNat_toNat]

/-- A character that is read at the beginning of some bytes is written there. -/
theorem exists_of_head (hhead : head byte rest = .scalar c n) :
    ∃ tail after, rest = tail ++ after ∧ String.utf8EncodeChar c = byte :: tail ∧
      n = tail.length + 1 := by
  unfold head at hhead
  split at hhead
  · cases hhead
  next lead hlead =>
  rcases lead?_cases hlead with ⟨hone, rfl⟩ | ⟨hlow, hhigh, rfl⟩ | ⟨hlow, hhigh, rfl⟩ |
    ⟨hlow, hhigh, rfl⟩
  all_goals dsimp only at hhead
  · obtain ⟨hbits, rfl⟩ := eq_of_follow hhead (Or.inl (by omega))
    refine ⟨[], rest, rfl, ?_, rfl⟩
    rcases encodeChar_cases c with ⟨-, hbytes⟩ | ⟨hsize, -⟩ | ⟨hsize, -⟩ | ⟨hsize, -⟩
    · rw [hbytes, ofNat_eq_of_toNat byte hbits.symm]
    all_goals omega
  · obtain ⟨second, after, rfl, hlow₂, hhigh₂, hhead⟩ := exists_of_follow hhead
    obtain ⟨hbits, rfl⟩ := eq_of_follow hhead (Or.inl (by omega))
    refine ⟨[second], after, rfl, ?_, rfl⟩
    rcases encodeChar_cases c with ⟨hsize, -⟩ | ⟨-, -, hbytes⟩ | ⟨hsize, -⟩ | ⟨hsize, -⟩
    · omega
    · rw [hbytes, ofNat_eq_of_toNat byte (by omega),
        ofNat_eq_of_toNat second (by omega)]
    all_goals omega
  · obtain ⟨second, after, rfl, hlow₂, hhigh₂, hhead⟩ := exists_of_follow hhead
    obtain ⟨third, after, rfl, hlow₃, hhigh₃, hhead⟩ := exists_of_follow hhead
    -- the narrowed range of the second byte keeps out short numbers and surrogates
    have hbounds : (byte.toNat = 0xE0 → 0xA0 ≤ second.toNat) ∧
        (byte.toNat = 0xED → second.toNat ≤ 0x9F) ∧ 0x80 ≤ second.toNat ∧
          second.toNat ≤ 0xBF := by
      split at hlow₂ <;> split at hhigh₂ <;> omega
    have hvalid : (((byte.toNat - 0xE0) * 64 + (second.toNat - 0x80)) * 64 +
        (third.toNat - 0x80)).isValidChar := by
      by_cases hsurrogate : byte.toNat < 0xEE
      · exact Or.inl (by omega)
      · exact Or.inr ⟨by omega, by omega⟩
    obtain ⟨hbits, rfl⟩ := eq_of_follow hhead hvalid
    refine ⟨[second, third], after, rfl, ?_, rfl⟩
    rcases encodeChar_cases c with ⟨hsize, -⟩ | ⟨-, hsize, -⟩ | ⟨-, -, hbytes⟩ | ⟨hsize, -⟩
    · omega
    · omega
    · rw [hbytes, ofNat_eq_of_toNat byte (by omega),
        ofNat_eq_of_toNat second (by omega),
        ofNat_eq_of_toNat third (by omega)]
    · omega
  · obtain ⟨second, after, rfl, hlow₂, hhigh₂, hhead⟩ := exists_of_follow hhead
    obtain ⟨third, after, rfl, hlow₃, hhigh₃, hhead⟩ := exists_of_follow hhead
    obtain ⟨fourth, after, rfl, hlow₄, hhigh₄, hhead⟩ := exists_of_follow hhead
    -- the narrowed range of the second byte keeps out short numbers and those that are too large
    have hbounds : (byte.toNat = 0xF0 → 0x90 ≤ second.toNat) ∧
        (byte.toNat = 0xF4 → second.toNat ≤ 0x8F) ∧ 0x80 ≤ second.toNat ∧
          second.toNat ≤ 0xBF := by
      split at hlow₂ <;> split at hhigh₂ <;> omega
    have hvalid : ((((byte.toNat - 0xF0) * 64 + (second.toNat - 0x80)) * 64 +
        (third.toNat - 0x80)) * 64 + (fourth.toNat - 0x80)).isValidChar :=
      Or.inr ⟨by omega, by omega⟩
    obtain ⟨hbits, rfl⟩ := eq_of_follow hhead hvalid
    refine ⟨[second, third, fourth], after, rfl, ?_, rfl⟩
    rcases encodeChar_cases c with ⟨hsize, -⟩ | ⟨-, hsize, -⟩ | ⟨-, hsize, -⟩ | ⟨-, hbytes⟩
    · omega
    · omega
    · omega
    · rw [hbytes, ofNat_eq_of_toNat byte (by omega),
        ofNat_eq_of_toNat second (by omega),
        ofNat_eq_of_toNat third (by omega),
        ofNat_eq_of_toNat fourth (by omega)]

end Head

/-- Bytes without a broken piece are what their characters are written with. -/
theorem eq_flatMap_of_pieces (offset : Nat) (bytes : Bytes)
    (hwhole : ∀ piece ∈ piecesFrom offset 0 bytes, piece.2 ≠ none) :
    bytes = ((piecesFrom offset 0 bytes).filterMap (·.2)).flatMap String.utf8EncodeChar := by
  -- a character takes several bytes, so the induction is on how many there are
  induction hlength : bytes.length using Nat.strongRecOn generalizing offset bytes with
  | _ length ih =>
  cases bytes with
  | nil => rfl
  | cons byte rest =>
      cases hhead : head byte rest with
      | broken size =>
          rw [piecesFrom, hhead] at hwhole
          exact absurd rfl (hwhole _ List.mem_cons_self)
      | scalar c size =>
          obtain ⟨tail, after, rfl, hbytes, rfl⟩ := exists_of_head hhead
          have hpieces : piecesFrom offset 0 (byte :: (tail ++ after)) =
              (offset, some c) :: piecesFrom (offset + 1 + tail.length) 0 after := by
            rw [piecesFrom, hhead]
            simp only [Nat.add_sub_cancel]
            rw [piecesFrom_skip]
          rw [hpieces] at hwhole ⊢
          rw [List.forall_mem_cons] at hwhole
          have hafter := ih after.length (by
            rw [← hlength, List.length_cons, List.length_append]
            omega) _ after hwhole.2 rfl
          have hchars : ((offset, some c) :: piecesFrom (offset + 1 + tail.length) 0 after).filterMap
              (·.2) = c :: (piecesFrom (offset + 1 + tail.length) 0 after).filterMap (·.2) := rfl
          rw [hchars, List.flatMap_cons, hbytes, List.cons_append, ← hafter]

/-- **Strict reading accepts the bytes of texts and nothing else**, and gives the text. -/
theorem decode_eq_ok_iff {bytes : Bytes} {text : String} :
    decode bytes = .ok text ↔ bytes = encode text := by
  refine ⟨fun hdecode => ?_, fun hbytes => hbytes ▸ decode_encode text⟩
  unfold decode at hdecode
  split at hdecode
  · cases hdecode
  next hwhole =>
  have hpieces : ∀ piece ∈ pieces bytes, piece.2 ≠ none := by
    rintro ⟨offset, piece⟩ hpiece rfl
    exact absurd (List.findSome?_eq_none_iff.mp hwhole _ hpiece) (by simp)
  rw [← Except.ok.inj hdecode, encode, String.toList_ofList]
  exact eq_flatMap_of_pieces 0 bytes hpieces

end HourlyIngest.Text
