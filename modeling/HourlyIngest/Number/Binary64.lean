/-!
# Double-precision numbers

Numbers of the IEEE binary64 format as exact integers: a finite number is
`significand · 2 ^ exponent` with its sign.  No floating-point operation of the machine is
involved.  Every result is the number of the format nearest to the exact value, a tie going to
the even significand, so one function (`ofRatio`) is behind all of them.

Numbers are kept in canonical form: the significand of a finite number is below `2 ^ 53`, its
exponent is between `-1074` and `971`, and the significand is at least `2 ^ 52` unless the
exponent is `-1074`.
-/

namespace HourlyIngest.Number

inductive Binary64 where
  | nan
  | infinite (negative : Bool)
  /-- The number `significand · 2 ^ exponent`, with a minus sign if `negative`. -/
  | finite (negative : Bool) (significand : Nat) (exponent : Int)
deriving DecidableEq, Repr, Inhabited

/-- The quotient rounded to the nearest whole number, a tie to the even one. -/
def roundEven (num den : Nat) : Nat :=
  let quotient := num / den
  let twice := 2 * (num % den)
  if twice < den then quotient
  else if den < twice then quotient + 1
  else quotient + quotient % 2

/-- The quotient rounded to the nearest whole number, a tie upwards. -/
def roundUp (num den : Nat) : Nat :=
  (2 * num + den) / (2 * den)

/-- `num / den / 2 ^ exponent` as a quotient of whole numbers. -/
def scaleByTwo (num den : Nat) (exponent : Int) : Nat × Nat :=
  match exponent with
  | .ofNat n => (num, den * Nat.pow 2 n)
  | .negSucc n => (num * Nat.pow 2 (n + 1), den)

/-- `num · 10 ^ exponent / den` as a quotient of whole numbers. -/
def scaleByTen (num den : Nat) (exponent : Int) : Nat × Nat :=
  match exponent with
  | .ofNat n => (num * Nat.pow 10 n, den)
  | .negSucc n => (num, den * Nat.pow 10 (n + 1))

namespace Binary64

/-- The least exponent of a number of the format. -/
def minExponent : Int := -1074

/-- The greatest exponent of a number of the format. -/
def maxExponent : Int := 971

/-- The least significand of 53 binary digits. -/
def leastFull : Nat := Nat.pow 2 52

/-- The exponent at which the quotient has 53 binary digits before the point, or the least one. -/
def exponentFor (num den : Nat) : Int :=
  let guess : Int := (Nat.log2 num : Int) - Nat.log2 den - 52
  let scaled := scaleByTwo num den guess
  max minExponent (if scaled.1 / scaled.2 < leastFull then guess - 1 else guess)

/-- The number of the format nearest to `num / den`. -/
def ofRatio (negative : Bool) (num den : Nat) : Binary64 :=
  if num = 0 then .finite negative 0 minExponent
  else
    let exponent := exponentFor num den
    let scaled := scaleByTwo num den exponent
    let significand := roundEven scaled.1 scaled.2
    let rounded : Nat × Int :=
      if significand = 2 * leastFull then (leastFull, exponent + 1) else (significand, exponent)
    if maxExponent < rounded.2 then .infinite negative
    else .finite negative rounded.1 rounded.2

/-- The number nearest to a whole number. -/
def ofInt (n : Int) : Binary64 :=
  ofRatio (n < 0) n.natAbs 1

/-- The magnitude of a finite number as a quotient of whole numbers. -/
def magnitude (significand : Nat) (exponent : Int) : Nat × Nat :=
  match exponent with
  | .ofNat n => (significand * Nat.pow 2 n, 1)
  | .negSucc n => (significand, Nat.pow 2 (n + 1))

/-- The number nearest to `coefficient · 10 ^ exponent`.  Values beyond every number of the format,
and below half of the least one, are answered without forming the power. -/
def ofDecimal (negative : Bool) (coefficient : Nat) (exponent : Int) : Binary64 :=
  let length : Int := (Nat.toDigits 10 coefficient).length
  if coefficient = 0 then .finite negative 0 minExponent
  else if 400 < exponent + length then .infinite negative
  else if exponent + length < -400 then .finite negative 0 minExponent
  else
    let scaled := scaleByTen coefficient 1 exponent
    ofRatio negative scaled.1 scaled.2

/-- Whether the number is a zero of either sign. -/
def isZero : Binary64 → Bool
  | .finite _ significand _ => significand == 0
  | _ => false

/-- The number nearest to the value divided by a positive whole number. -/
def divideBy (divisor : Nat) : Binary64 → Binary64
  | .finite negative significand exponent =>
      let value := magnitude significand exponent
      ofRatio negative value.1 (value.2 * divisor)
  | other => other

/-- The nearest whole number, a half going away from zero, cut off at 0 and at `limit`. -/
def toNatUpTo (limit : Nat) : Binary64 → Nat
  | .nan => 0
  | .infinite negative => if negative then 0 else limit
  | .finite negative significand exponent =>
      let value := magnitude significand exponent
      if negative then 0 else min limit (roundUp value.1 value.2)

end Binary64

end HourlyIngest.Number
