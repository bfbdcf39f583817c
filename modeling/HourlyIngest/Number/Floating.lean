import HourlyIngest.Number.Binary64
import HourlyIngest.Number.Numeral

/-!
# Numbers with a fraction in text

The spellings that a setting from outside a file may use for a number that is not whole: digits
with an optional point and an optional exponent, or a name for the values that are not finite.
-/

namespace HourlyIngest.Number

def digitsValue (digits : List Char) : Nat :=
  digits.foldl (fun value c => value * 10 + (digit? c).getD 0) 0

/-- Whether a character is an ASCII digit. -/
def isDigit (c : Char) : Bool :=
  (digit? c).isSome

/-- The exponent part: nothing, or the letter, an optional sign and at least one digit. -/
def readExponent? : List Char → Option Int
  | [] => some 0
  | c :: rest =>
      if c ≠ 'e' ∧ c ≠ 'E' then none
      else
        let signed : Bool × List Char :=
          match rest with
          | '-' :: digits => (true, digits)
          | '+' :: digits => (false, digits)
          | digits => (false, digits)
        if signed.2.isEmpty || !signed.2.all isDigit then none
        else some (if signed.1 then -(digitsValue signed.2 : Int) else digitsValue signed.2)

/-- A magnitude: digits before or after the point or both, then the exponent. -/
def readMagnitude64? (negative : Bool) (text : List Char) : Option Binary64 :=
  let whole := text.takeWhile isDigit
  let rest := text.dropWhile isDigit
  let fraction : List Char × List Char :=
    match rest with
    | '.' :: after => (after.takeWhile isDigit, after.dropWhile isDigit)
    | _ => ([], rest)
  if whole.isEmpty && fraction.1.isEmpty then none
  else
    (readExponent? fraction.2).map fun exponent =>
      Binary64.ofDecimal negative (digitsValue (whole ++ fraction.1)) (exponent - fraction.1.length)

/-- The lower-case form of an ASCII letter in the name of a value that is not finite. -/
def lowerLetter (c : Char) : Char :=
  if 'A' ≤ c ∧ c ≤ 'Z' then Char.ofNat (c.toNat + 0x20) else c

/-- A number with an optional sign.  The names of infinity and of the value that is no number are
accepted in any letter case. -/
def readBinary64? (text : List Char) : Option Binary64 :=
  let signed : Bool × List Char :=
    match text with
    | '-' :: rest => (true, rest)
    | '+' :: rest => (false, rest)
    | _ => (false, text)
  let name := String.ofList (signed.2.map lowerLetter)
  if name = "nan" then some .nan
  else if name = "inf" || name = "infinity" then some (.infinite signed.1)
  else readMagnitude64? signed.1 signed.2

end HourlyIngest.Number
