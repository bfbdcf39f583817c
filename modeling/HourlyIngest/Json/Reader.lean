import HourlyIngest.Json.Value
import HourlyIngest.Number.Numeral

/-!
# Reading JSON

A strict reader: nothing but blanks may follow the value, a control in a string must be escaped,
and halves of surrogate pairs must come in pairs.  Arrays and objects nest at most 127 deep.  A
member of an object replaces an earlier one of its name.

A whole number of 64 bits is kept exactly.  Every other number becomes a double: the digits that
fit into 64 bits make up a whole number, which is then multiplied or divided by a power of ten,
with one rounding for each of these steps.
-/

namespace HourlyIngest.Json

open Number

/-- Whether a character may stand between the parts of a value. -/
def isGap (c : Char) : Bool :=
  c == ' ' || c == '\n' || c == '\t' || c == '\r'

/-- The text after the blanks at its beginning. -/
def skipGap (text : List Char) : List Char :=
  text.dropWhile isGap

/-! ## Strings -/

def hexValue? (c : Char) : Option Nat :=
  if '0' ≤ c ∧ c ≤ '9' then some (c.toNat - '0'.toNat)
  else if 'a' ≤ c ∧ c ≤ 'f' then some (c.toNat - 'a'.toNat + 10)
  else if 'A' ≤ c ∧ c ≤ 'F' then some (c.toNat - 'A'.toNat + 10)
  else none

/-- The number of four hexadecimal digits. -/
def hexQuad? (a b c d : Char) : Option Nat := do
  let a ← hexValue? a
  let b ← hexValue? b
  let c ← hexValue? c
  let d ← hexValue? d
  return ((a * 16 + b) * 16 + c) * 16 + d

/-- The character that a letter after a backslash stands for. -/
def shortEscape? (c : Char) : Option Char :=
  if c = '"' ∨ c = '\\' ∨ c = '/' then some c
  else if c = 'b' then some (Char.ofNat 0x08)
  else if c = 'f' then some (Char.ofNat 0x0C)
  else if c = 'n' then some '\n'
  else if c = 'r' then some '\r'
  else if c = 't' then some '\t'
  else none

/-- The rest of a string after its opening quote: its characters and what follows the closing
quote.  `done` holds the characters read so far, the last first. -/
def readString? (done : List Char) : List Char → Option (List Char × List Char)
  | [] => none
  | '"' :: rest => some (done.reverse, rest)
  | '\\' :: 'u' :: a :: b :: c :: d :: rest =>
      match hexQuad? a b c d with
      | none => none
      | some high =>
          if 0xDC00 ≤ high ∧ high ≤ 0xDFFF then none
          else if 0xD800 ≤ high ∧ high ≤ 0xDBFF then
            match rest with
            | '\\' :: 'u' :: e :: f :: g :: h :: rest =>
                match hexQuad? e f g h with
                | none => none
                | some low =>
                    if 0xDC00 ≤ low ∧ low ≤ 0xDFFF then
                      let number := 0x10000 + (high - 0xD800) * 0x400 + (low - 0xDC00)
                      readString? (Char.ofNat number :: done) rest
                    else none
            | _ => none
          else readString? (Char.ofNat high :: done) rest
  | '\\' :: c :: rest =>
      match shortEscape? c with
      | some c => readString? (c :: done) rest
      | none => none
  | c :: rest => if c = '\\' ∨ c.toNat < 0x20 then none else readString? (c :: done) rest

/-! ## Numbers -/

/-- Add digits to a whole number as long as it fits into 64 bits: the number, and how many digits
were added. -/
def absorb (value used : Nat) : List Char → Nat × Nat
  | [] => (value, used)
  | c :: rest =>
      let next := value * 10 + (digit? c).getD 0
      if maxUnsigned64 < next then (value, used) else absorb next (used + 1) rest

/-- The whole number nearest to a power of ten among the doubles. -/
def powerOfTen (exponent : Nat) : Nat :=
  match Binary64.ofRatio false (Nat.pow 10 exponent) 1 with
  | .finite _ significand exponent =>
      let value := Binary64.magnitude significand exponent
      value.1 / value.2
  | _ => 0

/-- The double after one more multiplication or division by a power of ten, none on overflow. -/
def scaleReal? (negative : Bool) (num den : Nat) : Option Binary64 :=
  match Binary64.ofRatio negative num den with
  | .infinite _ => none
  | other => some other

/-- A whole number times a power of ten.  Powers below `10 ^ (-308)` are reached in several
divisions, of which `fuel` bounds the number; the value is zero long before. -/
def scaleByPower? (value : Binary64) (exponent : Int) : Nat → Option Binary64
  | 0 => some value
  | fuel + 1 =>
      match value with
      | .finite negative significand binary =>
          let magnitude := Binary64.magnitude significand binary
          if -308 ≤ exponent ∧ exponent ≤ 308 then
            if 0 ≤ exponent then
              scaleReal? negative (magnitude.1 * powerOfTen exponent.toNat) magnitude.2
            else scaleReal? negative magnitude.1 (magnitude.2 * powerOfTen (-exponent).toNat)
          else if significand = 0 then some value
          else if 0 ≤ exponent then none
          else
            scaleByPower?
              (Binary64.ofRatio negative magnitude.1 (magnitude.2 * powerOfTen 308))
              (exponent + 308) fuel
      | other => some other

/-- The exponent part of a number, none where a letter has no digits after it. -/
def readPower? : List Char → Option (Option Int × List Char)
  | c :: rest =>
      if c = 'e' ∨ c = 'E' then
        let signed : Bool × List Char :=
          match rest with
          | '-' :: after => (true, after)
          | '+' :: after => (false, after)
          | after => (false, after)
        let digits := signed.2.takeWhile (digit? · |>.isSome)
        if digits.isEmpty then none
        else
          let power : Nat := digits.foldl (fun value c => value * 10 + (digit? c).getD 0) 0
          some (some (if signed.1 then -(power : Int) else power), signed.2.drop digits.length)
      else some (none, c :: rest)
  | [] => some (none, [])

/-- The digits after a point, none where a point has no digits after it. -/
def readFraction? : List Char → Option (Option (List Char) × List Char)
  | '.' :: rest =>
      let digits := rest.takeWhile (digit? · |>.isSome)
      if digits.isEmpty then none else some (some digits, rest.drop digits.length)
  | text => some (none, text)

/-- The number that the parts of its text make up. -/
def assemble? (negative : Bool) (whole : List Char) (fraction : Option (List Char))
    (power : Option Int) : Option Json :=
  let head := absorb 0 0 whole
  let fits := head.2 == whole.length
  let sign : Int := if negative then -1 else 1
  if fits && fraction.isNone && power.isNone && !negative then some (integer head.1)
  else if fits && fraction.isNone && power.isNone && 0 < head.1 && head.1 ≤ maxSigned64 + 1 then
    some (integer (sign * head.1))
  else
    let tail := absorb head.1 0 (fraction.getD [])
    let exponent : Int := (whole.length - head.2 : Nat) - tail.2 + power.getD 0
    (scaleByPower? (Binary64.ofRatio negative tail.1 1) exponent 4).map real

/-- A number without its sign: no digit may follow a leading zero. -/
def readMagnitude? (negative : Bool) (text : List Char) : Option (Json × List Char) := do
  let whole := text.takeWhile (digit? · |>.isSome)
  if whole.isEmpty then none
  if whole.head? = some '0' ∧ 1 < whole.length then none
  let (fraction, rest) ← readFraction? (text.drop whole.length)
  let (power, rest) ← readPower? rest
  let value ← assemble? negative whole fraction power
  return (value, rest)

def readNumber? : List Char → Option (Json × List Char)
  | '-' :: rest => readMagnitude? true rest
  | text => readMagnitude? false text

/-! ## Values -/

mutual

/-- A value at the beginning of the text, and what follows it.  `depth` bounds the nesting that is
still allowed, `fuel` the number of steps. -/
def readValue? (depth : Nat) (text : List Char) : Nat → Option (Json × List Char)
  | 0 => none
  | fuel + 1 =>
      match text with
      | 'n' :: 'u' :: 'l' :: 'l' :: rest => some (null, rest)
      | 't' :: 'r' :: 'u' :: 'e' :: rest => some (boolean true, rest)
      | 'f' :: 'a' :: 'l' :: 's' :: 'e' :: rest => some (boolean false, rest)
      | '"' :: rest => (readString? [] rest).map fun read => (string (String.ofList read.1), read.2)
      | '[' :: rest =>
          match depth with
          | 0 => none
          | depth + 1 =>
              match skipGap rest with
              | ']' :: rest => some (array [], rest)
              | text => (readElements? depth text fuel).map fun read => (array read.1, read.2)
      | '\x7b' :: rest =>
          match depth with
          | 0 => none
          | depth + 1 =>
              match skipGap rest with
              | '\x7d' :: rest => some (object [], rest)
              | text => (readMembers? depth text fuel).map fun read => (ofMembers read.1, read.2)
      | text => readNumber? text

/-- One or more elements, up to the closing bracket. -/
def readElements? (depth : Nat) (text : List Char) : Nat → Option (List Json × List Char)
  | 0 => none
  | fuel + 1 =>
      match readValue? depth text fuel with
      | none => none
      | some (element, rest) =>
          match skipGap rest with
          | ']' :: rest => some ([element], rest)
          | ',' :: rest =>
              (readElements? depth (skipGap rest) fuel).map fun read =>
                (element :: read.1, read.2)
          | _ => none

/-- One or more members, up to the closing brace. -/
def readMembers? (depth : Nat) (text : List Char) : Nat → Option (List (String × Json) × List Char)
  | 0 => none
  | fuel + 1 =>
      match text with
      | '"' :: rest =>
          match readString? [] rest with
          | none => none
          | some (name, rest) =>
              match skipGap rest with
              | ':' :: rest =>
                  match readValue? depth (skipGap rest) fuel with
                  | none => none
                  | some (value, rest) =>
                      match skipGap rest with
                      | '\x7d' :: rest => some ([(String.ofList name, value)], rest)
                      | ',' :: rest =>
                          (readMembers? depth (skipGap rest) fuel).map fun read =>
                            ((String.ofList name, value) :: read.1, read.2)
                      | _ => none
              | _ => none
      | _ => none

end

/-- The deepest nesting of arrays and objects. -/
def maxDepth : Nat := 127

/-- The value that makes up the whole text.  Every step of the reader but the first takes at least
one character, so twice the length of the text is fuel enough. -/
def parse? (text : String) : Option Json :=
  let characters := text.toList
  match readValue? maxDepth (skipGap characters) (2 * characters.length + 2) with
  | some (value, rest) => if (skipGap rest).isEmpty then some value else none
  | none => none

end HourlyIngest.Json
