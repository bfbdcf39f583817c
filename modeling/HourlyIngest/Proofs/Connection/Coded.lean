import HourlyIngest.Connection.Uri
import HourlyIngest.Proofs.Text.Utf8

/-!
# Text with coded bytes

In the parts of a URI a byte is written as a percent sign and two hexadecimal digits, and only a
letter, a digit or one of four marks may stand for itself (`Coded`).  However bytes are written in
this way, they are read back (`bytesOf_of_coded`).  What is written has none of the characters at
which a URI is cut (`Coded.ordinary`), so that a part ends where the next one begins
(`cut?_append`).
-/

namespace HourlyIngest.Connection

open Text

/-- A character that may stand for itself in every part of a URI. -/
def isUnreserved (c : Char) : Bool :=
  c.isAlphanum || c == '-' || c == '.' || c == '_' || c == '~'

/-- The hexadecimal digits of a number below 16, of which one is as good as the other. -/
def hexDigits (n : Nat) : List Char :=
  [n.digitChar, n.digitChar.toUpper]

/-- The ways in which bytes are written. -/
inductive Coded : Bytes → List Char → Prop where
  | nil : Coded [] []
  | plain {c : Char} {bytes : Bytes} {text : List Char} : isUnreserved c = true →
      Coded bytes text → Coded (UInt8.ofNat c.toNat :: bytes) (c :: text)
  | percent {byte : UInt8} {high low : Char} {bytes : Bytes} {text : List Char} :
      high ∈ hexDigits (byte.toNat / 16) → low ∈ hexDigits (byte.toNat % 16) →
      Coded bytes text → Coded (byte :: bytes) ('%' :: high :: low :: text)

/-- The way of writing bytes in which only what has to be is coded, with capital letters. -/
def codeBytes (bytes : Bytes) : List Char :=
  bytes.flatMap fun byte =>
    let c := Char.ofNat byte.toNat
    if isUnreserved c then [c]
    else ['%', (byte.toNat / 16).digitChar.toUpper, (byte.toNat % 16).digitChar.toUpper]

/-- All bytes can be written. -/
theorem coded_codeBytes (bytes : Bytes) : Coded bytes (codeBytes bytes) := by
  induction bytes with
  | nil => exact .nil
  | cons byte bytes ih =>
      have hbyte := byte.toNat_lt
      rw [codeBytes, List.flatMap_cons]
      dsimp only
      split
      · next hplain =>
        have hvalid : byte.toNat.isValidChar := Or.inl (by omega)
        have hchar : (Char.ofNat byte.toNat).toNat = byte.toNat := by
          rw [Char.ofNat, dif_pos hvalid]
          rfl
        have hcoded := Coded.plain hplain ih
        rwa [hchar, UInt8.ofNat_toNat] at hcoded
      · exact .percent (by simp [hexDigits]) (by simp [hexDigits]) ih

/-! ## The characters of coded text -/

/-- Whether a character may stand in coded text. -/
def isOrdinary (c : Char) : Bool :=
  isUnreserved c || c == '%'

theorem isOrdinary_of_isUnreserved {c : Char} (hc : isUnreserved c = true) :
    isOrdinary c = true := by
  rw [isOrdinary, hc, Bool.true_or]

theorem isOrdinary_of_mem_hexDigits {n : Nat} (hn : n < 16) {c : Char} (hc : c ∈ hexDigits n) :
    isOrdinary c = true := by
  have hall : ∀ n < 16, (hexDigits n).all isOrdinary = true := by decide
  exact List.all_eq_true.mp (hall n hn) c hc

theorem hexValue?_of_mem_hexDigits {n : Nat} (hn : n < 16) {c : Char} (hc : c ∈ hexDigits n) :
    Json.hexValue? c = some n := by
  have hall : ∀ n < 16, (hexDigits n).all (Json.hexValue? · == some n) = true := by decide
  exact eq_of_beq (List.all_eq_true.mp (hall n hn) c hc)

theorem toNat_le_of_isOrdinary {c : Char} (hc : isOrdinary c = true) : c.toNat ≤ 0x7F := by
  have hval : ∀ d : Char, d.val.toNat = d.toNat := fun _ => rfl
  have halpha : c.isAlpha = (decide ('A'.val ≤ c.val ∧ c.val ≤ 'Z'.val) ||
      (decide ('a'.val ≤ c.val) && decide (c.val ≤ 'z'.val))) := rfl
  simp only [isOrdinary, isUnreserved, Char.isAlphanum, halpha, Char.isDigit, Bool.or_eq_true,
    Bool.and_eq_true, decide_eq_true_eq, beq_iff_eq, ge_iff_le, UInt32.le_iff_toNat_le, hval] at hc
  rcases hc with ((((((hupper | hlower) | hdigit) | rfl) | rfl) | rfl) | rfl) | rfl
  · exact Nat.le_trans hupper.2 (by decide)
  · exact Nat.le_trans hlower.2 (by decide)
  · exact Nat.le_trans hdigit.2 (by decide)
  all_goals decide

variable {bytes : Bytes} {text rest : List Char}

theorem Coded.ordinary (hcoded : Coded bytes text) : ∀ c ∈ text, isOrdinary c = true := by
  induction hcoded with
  | nil => simp
  | plain hc _ ih => exact List.forall_mem_cons.mpr ⟨isOrdinary_of_isUnreserved hc, ih⟩
  | @percent byte high low bytes text hhigh hlow _ ih =>
      have hbyte := byte.toNat_lt
      have hhigh := isOrdinary_of_mem_hexDigits (by omega) hhigh
      have hlow := isOrdinary_of_mem_hexDigits (by omega) hlow
      simp only [List.forall_mem_cons]
      exact ⟨by decide, hhigh, hlow, ih⟩

/-- A coded byte takes at least one character. -/
theorem Coded.ne_nil (hcoded : Coded bytes text) (hbytes : bytes ≠ []) : text ≠ [] := by
  cases hcoded with
  | nil => exact absurd rfl hbytes
  | plain => simp
  | percent => simp

/-! ## Reading coded text -/

/-- An ordinary character is one byte. -/
theorem encode_cons {c : Char} (hc : isOrdinary c = true) (text : List Char) :
    encode (String.ofList (c :: text)) =
      UInt8.ofNat c.toNat :: encode (String.ofList text) := by
  have hsmall := toNat_le_of_isOrdinary hc
  have hbyte := encodeChar_of_ascii (show c.toNat < 0x80 by omega)
  rw [encode, encode, String.toList_ofList, String.toList_ofList, List.flatMap_cons, hbyte]
  rfl

theorem ofNat_toNat_ofNat {c : Char} (hc : isOrdinary c = true) :
    Char.ofNat (UInt8.ofNat c.toNat).toNat = c := by
  have hsmall := toNat_le_of_isOrdinary hc
  rw [toNat_ofNat_of_lt (by omega), Char.ofNat_toNat]

theorem percentDecode_cons {byte : UInt8} (hbyte : byte ≠ 0x25) (rest : Bytes) :
    percentDecode (byte :: rest) = byte :: percentDecode rest := by
  rw [percentDecode]
  exact fun _ _ _ heq _ => hbyte heq

/-- A character that stands for itself is read as its byte. -/
theorem bytesOf_plain {c : Char} (hc : isUnreserved c = true) (text : List Char) :
    bytesOf (c :: text) = UInt8.ofNat c.toNat :: bytesOf text := by
  have hpercent : UInt8.ofNat c.toNat ≠ 0x25 := by
    intro heq
    have hchar := ofNat_toNat_ofNat (isOrdinary_of_isUnreserved hc)
    rw [heq] at hchar
    obtain rfl : '%' = c := hchar
    exact absurd hc (by decide)
  rw [bytesOf, encode_cons (isOrdinary_of_isUnreserved hc), percentDecode_cons hpercent, bytesOf]

/-- A percent sign and two digits are read as the byte that they are written for. -/
theorem bytesOf_percent {byte : UInt8} {high low : Char}
    (hhigh : high ∈ hexDigits (byte.toNat / 16)) (hlow : low ∈ hexDigits (byte.toNat % 16))
    (text : List Char) : bytesOf ('%' :: high :: low :: text) = byte :: bytesOf text := by
  have hbyte := byte.toNat_lt
  have hhigh' := isOrdinary_of_mem_hexDigits (by omega) hhigh
  have hlow' := isOrdinary_of_mem_hexDigits (by omega) hlow
  have hvalue : byte.toNat / 16 * 16 + byte.toNat % 16 = byte.toNat := by omega
  rw [bytesOf, encode_cons (by decide), encode_cons hhigh', encode_cons hlow']
  show percentDecode (0x25 :: _ :: _ :: _) = _
  rw [percentDecode, ofNat_toNat_ofNat hhigh', ofNat_toNat_ofNat hlow',
    hexValue?_of_mem_hexDigits (by omega) hhigh,
    hexValue?_of_mem_hexDigits (by omega) hlow]
  dsimp only
  rw [hvalue, UInt8.ofNat_toNat, bytesOf]

/-- **Bytes are read back from every way in which they are written.** -/
theorem bytesOf_of_coded (hcoded : Coded bytes text) : bytesOf text = bytes := by
  induction hcoded with
  | nil => rfl
  | plain hc _ ih => rw [bytesOf_plain hc, ih]
  | percent hhigh hlow _ ih => rw [bytesOf_percent hhigh hlow, ih]

theorem textOf?_of_coded {value : String} (hcoded : Coded (encode value) text) :
    textOf? text = some value := by
  rw [textOf?, bytesOf_of_coded hcoded, decode?, decode_encode]
  rfl

/-- Unreserved characters stand for themselves. -/
theorem coded_self (value : String) (hvalue : ∀ c ∈ value.toList, isUnreserved c = true) :
    Coded (encode value) value.toList := by
  have hself : ∀ text : List Char, (∀ c ∈ text, isUnreserved c = true) →
      Coded (encode (String.ofList text)) text := by
    intro text htext
    induction text with
    | nil => exact .nil
    | cons c text ih =>
        rw [List.forall_mem_cons] at htext
        rw [encode_cons (isOrdinary_of_isUnreserved htext.1)]
        exact .plain htext.1 (ih htext.2)
  simpa using hself value.toList hvalue

/-! ## Cutting a URI -/

variable {wanted : Char → Bool} {before : List Char}

theorem takeWhile_append_of_cut (hbefore : ∀ c ∈ before, wanted c = false) (rest : List Char)
    (hrest : ∀ c ∈ rest.head?, wanted c = true) :
    (before ++ rest).takeWhile (!wanted ·) = before := by
  rw [List.takeWhile_append_of_pos (by simpa using hbefore)]
  cases rest with
  | nil => simp
  | cons c rest => rw [List.takeWhile_cons_of_neg (by simp [hrest c rfl]), List.append_nil]

theorem cut?_append {c : Char} (hbefore : ∀ c ∈ before, wanted c = false) (hc : wanted c = true) :
    cut? wanted (before ++ c :: rest) = some (before, c :: rest) := by
  have htake := takeWhile_append_of_cut hbefore (c :: rest) (by simpa using hc)
  simp only [cut?, htake, List.drop_left]
  rfl

theorem cut_append {c : Char} (hbefore : ∀ c ∈ before, wanted c = false) (hc : wanted c = true) :
    cut wanted (before ++ c :: rest) = (before, c :: rest) := by
  rw [cut, cut?_append hbefore hc, Option.getD_some]

theorem cut_self (hbefore : ∀ c ∈ before, wanted c = false) : cut wanted before = (before, []) := by
  have htake := takeWhile_append_of_cut hbefore [] (by simp)
  rw [List.append_nil] at htake
  simp [cut, cut?, htake]

end HourlyIngest.Connection
