import HourlyIngest.Number.Shortest

/-!
# Doubles as JSON numbers

A number that is not whole for its type is written with its shortest digits.  Close to one the
notation is positional and always has a digit behind the point, so that the number stays apart
from a whole one; elsewhere the exponent has its sign.
-/

namespace HourlyIngest.Json

open Number

/-- The least power of ten of a first digit in positional notation. -/
def leastPositional : Int := -5

/-- The greatest power of ten of a first digit in positional notation. -/
def greatestPositional : Int := 15

/-- Digits with a point behind the first one, where more digits follow. -/
def pointed : List Char → List Char
  | first :: second :: rest => first :: '.' :: second :: rest
  | digits => digits

def exponentText (exponent : Int) : List Char :=
  'e' :: (if exponent < 0 then '-' else '+') :: Nat.toDigits 10 exponent.natAbs

/-- A decimal as a JSON number that is not whole. -/
def decimalText (decimal : Decimal) : List Char :=
  if leastPositional ≤ decimal.magnitude ∧ decimal.magnitude ≤ greatestPositional then
    if 0 ≤ decimal.exponent then decimal.positional ++ ['.', '0'] else decimal.positional
  else pointed decimal.digits ++ exponentText decimal.magnitude

/-- A double as a JSON number; what is not finite is null. -/
def realText : Binary64 → String
  | .finite negative significand exponent =>
      let text := decimalText (Binary64.shortest .even significand exponent)
      String.ofList (if negative then '-' :: text else text)
  | _ => "null"

end HourlyIngest.Json
