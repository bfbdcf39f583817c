import HourlyIngest.Number.Numeral

/-!
# Internet addresses

Numeric addresses of the fourth and the sixth version of the protocol.  An address of the sixth
version is eight groups of sixteen bits; two colons stand for a run of zeros, and the last two
groups may be written as an address of the fourth version.
-/

namespace HourlyIngest

open Number

inductive Address where
  | v4 (a b c d : Nat)
  | v6 (groups : List Nat)
deriving DecidableEq, Repr

namespace Address

/-- The value of a digit in base ten or sixteen. -/
def digitIn? (base : Nat) (c : Char) : Option Nat :=
  let value? : Option Nat :=
    if '0' ≤ c ∧ c ≤ '9' then some (c.toNat - '0'.toNat)
    else if 'a' ≤ c ∧ c ≤ 'f' then some (c.toNat - 'a'.toNat + 10)
    else if 'A' ≤ c ∧ c ≤ 'F' then some (c.toNat - 'A'.toNat + 10)
    else none
  value?.bind fun value => if value < base then some value else none

/-- A number of at most `width` digits at the beginning of a text, and what follows it. -/
def takeNumber? (base width : Nat) (text : List Char) : Option (Nat × List Char) :=
  let digits := text.takeWhile fun c => (digitIn? base c).isSome
  if digits.isEmpty ∨ width < digits.length then none
  else
    some (digits.foldl (fun value c => value * base + (digitIn? base c).getD 0) 0,
      text.drop digits.length)

def after? (c : Char) : List Char → Option (List Char)
  | d :: rest => if d = c then some rest else none
  | [] => none

/-- One of the four numbers of an address of the fourth version.  No zero may stand in front of
other digits. -/
def takeOctet? (text : List Char) : Option (Nat × List Char) :=
  match takeNumber? 10 3 text with
  | some (value, rest) =>
      if 255 < value ∨ (text.head? = some '0' ∧ rest.length + 1 < text.length) then none
      else some (value, rest)
  | none => none

/-- An address of the fourth version at the beginning of a text: its four numbers. -/
def takeV4? (text : List Char) : Option ((Nat × Nat × Nat × Nat) × List Char) := do
  let (a, rest) ← takeOctet? text
  let (b, rest) ← takeOctet? (← after? '.' rest)
  let (c, rest) ← takeOctet? (← after? '.' rest)
  let (d, rest) ← takeOctet? (← after? '.' rest)
  return ((a, b, c, d), rest)

/-- Groups of an address of the sixth version, at most `limit` of them, whether they end in an
address of the fourth version, and what follows them.  All but the first have a colon in front. -/
def takeGroups (first : Bool) (text : List Char) : Nat → List Nat × Bool × List Char
  | 0 => ([], false, text)
  | limit + 1 =>
      match if first then some text else after? ':' text with
      | none => ([], false, text)
      | some start =>
          match if 0 < limit then takeV4? start else none with
          | some ((a, b, c, d), rest) => ([a * 256 + b, c * 256 + d], true, rest)
          | none =>
              match takeNumber? 16 4 start with
              | none => ([], false, text)
              | some (group, rest) =>
                  let (groups, mixed, rest) := takeGroups false rest limit
                  (group :: groups, mixed, rest)

/-- An address of the sixth version. -/
def readV6? (text : List Char) : Option Address :=
  let (head, mixed, rest) := takeGroups true text 8
  if head.length = 8 then if rest.isEmpty then some (.v6 head) else none
  else if mixed then none
  else
    match rest with
    | ':' :: ':' :: rest =>
        let (tail, _, rest) := takeGroups true rest (7 - head.length)
        if rest.isEmpty then
          some (.v6 (head ++ List.replicate (8 - head.length - tail.length) 0 ++ tail))
        else none
    | _ => none

def read? (text : List Char) : Option Address :=
  match takeV4? text with
  | some ((a, b, c, d), []) => some (.v4 a b c d)
  | _ => readV6? text

/-! ## Writing addresses -/

/-- The four numbers with dots between them. -/
def writeV4 (a b c d : Nat) : List Char :=
  digits a ++ '.' :: digits b ++ '.' :: digits c ++ '.' :: digits d

/-- The number of zeros at the beginning. -/
def leadingZeros (groups : List Nat) : Nat :=
  (groups.takeWhile (· = 0)).length

/-- The place and the length of the longest run of zeros, the first one of several. -/
def longestRun (place : Nat) : List Nat → Nat × Nat
  | [] => (place, 0)
  | group :: rest =>
      let here := leadingZeros (group :: rest)
      let later := longestRun (place + 1) rest
      if later.2 ≤ here then (place, here) else later

/-- Groups in hexadecimal with colons between them. -/
def writeGroups : List Nat → List Char
  | [] => []
  | [last] => Nat.toDigits 16 last
  | group :: next :: rest => Nat.toDigits 16 group ++ ':' :: writeGroups (next :: rest)

/-- Eight groups; the longest run of at least two zeros is left out. -/
def writeV6 (groups : List Nat) : List Char :=
  match groups with
  | [0, 0, 0, 0, 0, 0xFFFF, high, low] =>
      "::ffff:".toList ++ writeV4 (high / 256) (high % 256) (low / 256) (low % 256)
  | _ =>
      let run := longestRun 0 groups
      if 1 < run.2 then
        writeGroups (groups.take run.1) ++ ':' :: ':' :: writeGroups (groups.drop (run.1 + run.2))
      else writeGroups groups

/-- The normal spelling of an address. -/
def text : Address → String
  | .v4 a b c d => String.ofList (writeV4 a b c d)
  | .v6 groups => String.ofList (writeV6 groups)

end Address

end HourlyIngest
