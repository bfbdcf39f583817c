/-!
# Whole numbers in text

Reading decimal numerals of a bounded size.  Characters are taken from left to right and the first
fault decides: a character that is no digit, or the digit that carries the value past its bound.
-/

namespace HourlyIngest.Number

/-- Why a text is no whole number of the wanted size. -/
inductive NumeralFault where
  | empty
  | invalidDigit
  | tooLarge
  | tooSmall
deriving DecidableEq, Repr

def NumeralFault.message : NumeralFault → String
  | .empty => "cannot parse integer from empty string"
  | .invalidDigit => "invalid digit found in string"
  | .tooLarge => "number too large to fit in target type"
  | .tooSmall => "number too small to fit in target type"

/-- The largest whole number of 16 bits. -/
def maxUnsigned16 : Nat := Nat.pow 2 16 - 1

/-- The largest whole number of 32 bits. -/
def maxUnsigned32 : Nat := Nat.pow 2 32 - 1

/-- The largest whole number of 64 bits. -/
def maxUnsigned64 : Nat := Nat.pow 2 64 - 1

/-- The largest signed whole number of 64 bits. -/
def maxSigned64 : Nat := Nat.pow 2 63 - 1

def digit? (c : Char) : Option Nat :=
  if '0' ≤ c ∧ c ≤ '9' then some (c.toNat - '0'.toNat) else none

/-- Read further digits after those that make up `value`; `fault` is reported for a value above
`limit`. -/
def readDigits (limit : Nat) (fault : NumeralFault) (value : Nat) :
    List Char → Except NumeralFault Nat
  | [] => .ok value
  | c :: rest =>
      match digit? c with
      | none => .error .invalidDigit
      | some digit =>
          if limit < value * 10 + digit then .error fault
          else readDigits limit fault (value * 10 + digit) rest

/-- Read at least one digit. -/
def readMagnitude (limit : Nat) (fault : NumeralFault) : List Char → Except NumeralFault Nat
  | [] => .error .invalidDigit
  | digits => readDigits limit fault 0 digits

/-- A whole number from 0 to `limit`; a plus sign may stand before it. -/
def readUnsigned (limit : Nat) : List Char → Except NumeralFault Nat
  | [] => .error .empty
  | '+' :: digits => readMagnitude limit .tooLarge digits
  | digits => readMagnitude limit .tooLarge digits

/-- A whole number from `-2⁶³` to `2⁶³ - 1`; a sign may stand before it. -/
def readSigned64 : List Char → Except NumeralFault Int
  | [] => .error .empty
  | '+' :: digits => (readMagnitude maxSigned64 .tooLarge digits).map Int.ofNat
  | '-' :: digits => (readMagnitude (maxSigned64 + 1) .tooSmall digits).map fun n => -(n : Int)
  | digits => (readMagnitude maxSigned64 .tooLarge digits).map Int.ofNat

/-- The decimal digits of a number, as characters. -/
def digits (n : Nat) : List Char :=
  Nat.toDigits 10 n

/-- A numeral padded with zeros on the left to at least `width` characters. -/
def padded (width n : Nat) : List Char :=
  List.replicate (width - (digits n).length) '0' ++ digits n

end HourlyIngest.Number
