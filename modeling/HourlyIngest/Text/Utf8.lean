/-!
# UTF-8 text in byte sequences

Cells, file names and settings arrive as bytes.  A byte sequence is cut into *pieces*: each piece
is either one whole character or the longest run of bytes that could have begun a character but
does not complete one.  Strict reading (`decode`) asks that every piece is a character and names
the offset of the first that is not; lenient reading (`lossy`) puts the replacement character in
the place of every broken piece.
-/

namespace HourlyIngest.Text

abbrev Bytes := List UInt8

/-- What a byte sequence begins with, and how many bytes of it that takes. -/
inductive Head where
  /-- A whole character. -/
  | scalar (c : Char) (size : Nat)
  /-- Bytes that begin no character. -/
  | broken (size : Nat)
deriving DecidableEq, Repr

/-- What a first byte promises: how many bytes follow, the closed range in which the first of
them has to lie, and the bits that the first byte itself contributes. -/
structure Lead where
  following : Nat
  low : Nat
  high : Nat
  bits : Nat
deriving DecidableEq, Repr

/-- The narrowed ranges keep out overlong forms, surrogates and numbers above `0x10FFFF`. -/
def lead? (byte : UInt8) : Option Lead :=
  let n := byte.toNat
  if n < 0x80 then some ⟨0, 0x80, 0xBF, n⟩
  else if n < 0xC2 then none
  else if n < 0xE0 then some ⟨1, 0x80, 0xBF, n - 0xC0⟩
  else if n < 0xF0 then
    some ⟨2, if n = 0xE0 then 0xA0 else 0x80, if n = 0xED then 0x9F else 0xBF, n - 0xE0⟩
  else if n < 0xF5 then
    some ⟨3, if n = 0xF0 then 0x90 else 0x80, if n = 0xF4 then 0x8F else 0xBF, n - 0xF0⟩
  else none

/-- Read `following` more bytes of a character, the next of them between `low` and `high`.  `bits`
and `size` are what has been read already. -/
def follow (low high bits size : Nat) : Nat → Bytes → Head
  | 0, _ => .scalar (Char.ofNat bits) size
  | _ + 1, [] => .broken size
  | following + 1, byte :: rest =>
      if low ≤ byte.toNat && byte.toNat ≤ high then
        follow 0x80 0xBF (bits * 64 + (byte.toNat - 0x80)) (size + 1) following rest
      else .broken size

/-- The head of a byte sequence that has at least one byte. -/
def head (byte : UInt8) (rest : Bytes) : Head :=
  match lead? byte with
  | none => .broken 1
  | some lead => follow lead.low lead.high lead.bits 1 lead.following rest

/-- The pieces of a byte sequence with their offsets, `none` for a broken piece.  The first `skip`
bytes belong to a piece that has been reported already. -/
def piecesFrom (offset : Nat) : Nat → Bytes → List (Nat × Option Char)
  | _, [] => []
  | skip + 1, _ :: rest => piecesFrom (offset + 1) skip rest
  | 0, byte :: rest =>
      match head byte rest with
      | .scalar c size => (offset, some c) :: piecesFrom (offset + 1) (size - 1) rest
      | .broken size => (offset, none) :: piecesFrom (offset + 1) (size - 1) rest

/-- The pieces of a byte sequence, in order. -/
def pieces (bytes : Bytes) : List (Nat × Option Char) :=
  piecesFrom 0 0 bytes

/-- The offset of the first piece that is not a character. -/
def firstBroken? (bytes : Bytes) : Option Nat :=
  (pieces bytes).findSome? fun
    | (offset, none) => some offset
    | (_, some _) => none

/-- Strict reading: the text, or the offset of the first byte that belongs to no character. -/
def decode (bytes : Bytes) : Except Nat String :=
  match firstBroken? bytes with
  | some offset => .error offset
  | none => .ok (String.ofList ((pieces bytes).filterMap (·.2)))

/-- Strict reading where the place of the fault does not matter. -/
def decode? (bytes : Bytes) : Option String :=
  (decode bytes).toOption

/-- Lenient reading: each broken piece becomes the replacement character U+FFFD. -/
def lossy (bytes : Bytes) : String :=
  String.ofList ((pieces bytes).map fun piece => piece.2.getD (Char.ofNat 0xFFFD))

def encode (text : String) : Bytes :=
  text.toList.flatMap String.utf8EncodeChar

end HourlyIngest.Text
