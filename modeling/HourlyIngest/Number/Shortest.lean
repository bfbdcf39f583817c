import HourlyIngest.Number.Binary64

/-!
# The shortest decimal that reads back

A finite number of the binary64 format is written with the fewest decimal digits that are read
back as the same number, and of those with the nearest.  The numbers that are read back form an
interval around the value, its ends included when the significand is even; for 0, 1, 2, … digits the
two neighbours of the value on that decimal grid are tried, and the first grid with a hit wins.
Which of two equally near neighbours is meant is left to the writer.
-/

namespace HourlyIngest.Number

/-- The number `coefficient · 10 ^ exponent`. -/
structure Decimal where
  coefficient : Nat
  exponent : Int
deriving DecidableEq, Repr

/-- Which of two equally near neighbours is taken. -/
inductive Tie where
  | up
  | even
deriving DecidableEq, Repr

/-- Whether the neighbour below is taken, `twice / whole` being twice the distance to it. -/
def Tie.roundsDown (tie : Tie) (below twice whole : Nat) : Bool :=
  twice < whole || (twice == whole && tie == .even && below % 2 == 0)

namespace Binary64

/-- The value, the lower end and the upper end of the interval that is read back as
`significand · 2 ^ exponent`, over one denominator. -/
structure ReadBack where
  value : Nat
  low : Nat
  high : Nat
  den : Nat
  closed : Bool

/-- Neighbours are one unit of the exponent apart, except that the one below a power of two is
only half a unit away. -/
def readBack (significand : Nat) (exponent : Int) : ReadBack :=
  let quarter := magnitude 1 (exponent - 2)
  let below := if significand = leastFull ∧ minExponent < exponent then 1 else 2
  { value := 4 * significand * quarter.1
    low := (4 * significand - below) * quarter.1
    high := (4 * significand + 2) * quarter.1
    den := quarter.2
    closed := significand % 2 == 0 }

/-- Whether a decimal lies in the interval. -/
def ReadBack.contains (interval : ReadBack) (decimal : Decimal) : Bool :=
  let scaled := scaleByTen decimal.coefficient 1 decimal.exponent
  let place := scaled.1 * interval.den
  if interval.closed then
    interval.low * scaled.2 ≤ place && place ≤ interval.high * scaled.2
  else interval.low * scaled.2 < place && place < interval.high * scaled.2

/-- The least `n ≥ 0` with `num < den · 10 ^ n`, counted up to `fuel`. -/
def digitsBefore (num den : Nat) : Nat → Nat
  | 0 => 0
  | fuel + 1 => if num < den then 0 else digitsBefore num (den * 10) fuel + 1

/-- The greatest `n ≥ 0` with `num · 10 ^ n < den`, counted up to `fuel`. -/
def zerosAfter (num den : Nat) : Nat → Nat
  | 0 => 0
  | fuel + 1 => if num * 10 < den then zerosAfter (num * 10) den fuel + 1 else 0

/-- The least `n` with `num / den < 10 ^ n`, for a positive number of the format. -/
def decimalMagnitude (num den : Nat) : Int :=
  if num < den then -(zerosAfter num den 400 : Int) else digitsBefore num den 400

/-- The better of the two neighbours of the value on the grid of `10 ^ grid`, if one is read
back. -/
def hit? (tie : Tie) (interval : ReadBack) (grid : Int) : Option Decimal :=
  let scaled := scaleByTen interval.value interval.den (-grid)
  let below : Decimal := ⟨scaled.1 / scaled.2, grid⟩
  let above : Decimal := ⟨scaled.1 / scaled.2 + 1, grid⟩
  let isBelow := tie.roundsDown below.coefficient (2 * (scaled.1 % scaled.2)) scaled.2
  let nearer := if isBelow then below else above
  let farther := if isBelow then above else below
  [nearer, farther].find? fun decimal => decimal.coefficient != 0 && interval.contains decimal

/-- Try grids with more and more digits. -/
def shortestFrom (tie : Tie) (interval : ReadBack) (grid : Int) : Nat → Decimal
  | 0 => ⟨0, 0⟩
  | fuel + 1 =>
      match hit? tie interval grid with
      | some decimal => decimal
      | none => shortestFrom tie interval (grid - 1) fuel

/-- The shortest decimal of a finite number.  The first grid holds at most the power of ten just
above the value, so a hit never ends in a zero; seventeen digits after it always suffice. -/
def shortest (tie : Tie) (significand : Nat) (exponent : Int) : Decimal :=
  if significand = 0 then ⟨0, 0⟩
  else
    let interval := readBack significand exponent
    shortestFrom tie interval (decimalMagnitude interval.value interval.den) 19

end Binary64

def Decimal.digits (decimal : Decimal) : List Char :=
  Nat.toDigits 10 decimal.coefficient

/-- The power of ten of the first digit. -/
def Decimal.magnitude (decimal : Decimal) : Int :=
  decimal.exponent + decimal.digits.length - 1

/-- The decimal in positional notation: no exponent, and no point unless digits follow it. -/
def Decimal.positional (decimal : Decimal) : List Char :=
  let digits := decimal.digits
  match decimal.exponent with
  | .ofNat zeros => digits ++ List.replicate zeros '0'
  | .negSucc places =>
      let padded := List.replicate (places + 2 - digits.length) '0' ++ digits
      let whole := padded.length - (places + 1)
      padded.take whole ++ '.' :: padded.drop whole

namespace Binary64

/-- The number in positional notation with its shortest digits, equally near ones decided
upwards. -/
def toText : Binary64 → String
  | .nan => "NaN"
  | .infinite negative => if negative then "-inf" else "inf"
  | .finite negative significand exponent =>
      let text := (shortest .up significand exponent).positional
      String.ofList (if negative then '-' :: text else text)

/-- The number in positional notation, a whole number with a zero behind the point. -/
def toPointText (value : Binary64) : String :=
  match value with
  | .finite _ _ _ =>
      let text := value.toText
      if text.toList.contains '.' then text else text ++ ".0"
  | _ => value.toText

/-- The number with one place after the point, rounded from its exact value, a tie to the even
digit.  The sign stays on a number that is rounded to zero. -/
def toTenths : Binary64 → String
  | .finite negative significand exponent =>
      let value := magnitude significand exponent
      let text := Decimal.positional ⟨roundEven (value.1 * 10) value.2, -1⟩
      String.ofList (if negative then '-' :: text else text)
  | other => other.toText

end Binary64

end HourlyIngest.Number
