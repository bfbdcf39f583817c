import HourlyIngest.Number.Floating
import HourlyIngest.Number.Numeral
import HourlyIngest.Toml.Value

/-!
# Numbers, dates and times in TOML

A value without quotes and brackets is one token.  It is a truth value, a whole number in one of
four bases, a number with a fraction or an exponent, or a date, a time of day or both.
-/

namespace HourlyIngest.Toml

open Number

/-- The digits of a numeral in which single underscores stand between digits. -/
def plainDigits? (isMember : Char → Bool) : List Char → Option (List Char)
  | [] => none
  | [c] => if isMember c then some [c] else none
  | c :: '_' :: rest => if isMember c then (plainDigits? isMember rest).map (c :: ·) else none
  | c :: next :: rest =>
      if isMember c then (plainDigits? isMember (next :: rest)).map (c :: ·) else none

/-- The value of a digit in a base up to sixteen. -/
def baseDigit? (base : Nat) (c : Char) : Option Nat :=
  let value? : Option Nat :=
    if '0' ≤ c ∧ c ≤ '9' then some (c.toNat - '0'.toNat)
    else if 'a' ≤ c ∧ c ≤ 'f' then some (c.toNat - 'a'.toNat + 10)
    else if 'A' ≤ c ∧ c ≤ 'F' then some (c.toNat - 'A'.toNat + 10)
    else none
  value?.bind fun value => if value < base then some value else none

/-- A whole number of 64 bits in a base other than ten. -/
def readBase? (base : Nat) (text : List Char) : Option Toml := do
  let digits ← plainDigits? (fun c => (baseDigit? base c).isSome) text
  let value := digits.foldl (fun value c => value * base + (baseDigit? base c).getD 0) 0
  if maxSigned64 < value then none
  return .integer value

def splitSign : List Char → Option Char × List Char
  | '+' :: rest => (some '+', rest)
  | '-' :: rest => (some '-', rest)
  | text => (none, text)

/-- Whether the whole part of a number has a zero in front of other digits. -/
def hasLeadingZero : List Char → Bool
  | '0' :: _ :: _ => true
  | _ => false

/-- A whole number of 64 bits in base ten. -/
def readInteger? (text : List Char) : Option Toml := do
  let (sign, rest) := splitSign text
  let digits ← plainDigits? isDigit rest
  if hasLeadingZero digits then none
  (readSigned64 (sign.toList ++ digits)).toOption.map .integer

/-- A number with a fraction, an exponent or both. -/
def readReal? (text : List Char) : Option Toml := do
  let (sign, rest) := splitSign text
  let isMark := fun c : Char => c = '.' || c = 'e' || c = 'E'
  let whole ← plainDigits? isDigit (rest.takeWhile (!isMark ·))
  if hasLeadingZero whole then none
  let rest := rest.dropWhile (!isMark ·)
  let fraction ←
    match rest with
    | '.' :: after =>
        (plainDigits? isDigit (after.takeWhile fun c => isDigit c || c = '_')).map ('.' :: ·)
    | _ => some []
  let rest :=
    match rest with
    | '.' :: after => after.dropWhile fun c => isDigit c || c = '_'
    | other => other
  let exponent ←
    match rest with
    | [] => some []
    | mark :: after =>
        if mark = 'e' ∨ mark = 'E' then
          let (sign, digits) := splitSign after
          (plainDigits? isDigit digits).map fun digits => 'e' :: (sign.toList ++ digits)
        else none
  if fraction.isEmpty && exponent.isEmpty then none
  match readBinary64? (sign.toList ++ whole ++ fraction ++ exponent) with
  | some (.infinite false) => none
  | some value => some (.real value)
  | none => none

def readSpecial? (text : List Char) : Option Toml :=
  let (sign, rest) := splitSign text
  match rest with
  | ['i', 'n', 'f'] => some (.real (.infinite (sign = some '-')))
  | ['n', 'a', 'n'] => some (.real .nan)
  | _ => none

/-! ## Dates and times -/

/-- What the parts of a time may be at most: its hour, and the hours, the minutes and the whole
distance in minutes from universal time. -/
structure MomentBounds where
  hour : Nat
  offsetHour : Nat
  offsetMinute : Nat
  offset : Nat

/-- The bounds of a time that stands in a document. -/
def MomentBounds.document : MomentBounds := ⟨23, 23, 59, 1439⟩

/-- The bounds of a time that is kept in a text: a day may end at its hour 24, and minutes may run
over as long as the distance is at most a day. -/
def MomentBounds.kept : MomentBounds := ⟨24, 99, 99, 1440⟩

/-- A number of exactly `width` digits at the beginning of a text. -/
def takeNumber? (width : Nat) (text : List Char) : Option (Nat × List Char) :=
  let digits := text.take width
  if digits.length = width ∧ digits.all isDigit then some (digitsValue digits, text.drop width)
  else none

def daysIn (year month : Nat) : Nat :=
  if month = 2 then
    if year % 4 = 0 ∧ (year % 100 ≠ 0 ∨ year % 400 = 0) then 29 else 28
  else if month = 4 ∨ month = 6 ∨ month = 9 ∨ month = 11 then 30
  else 31

def after? (c : Char) : List Char → Option (List Char)
  | d :: rest => if d = c then some rest else none
  | [] => none

/-- A date, in its normal spelling. -/
def takeDate? (text : List Char) : Option (List Char × List Char) := do
  let (year, rest) ← takeNumber? 4 text
  let rest ← after? '-' rest
  let (month, rest) ← takeNumber? 2 rest
  let rest ← after? '-' rest
  let (day, rest) ← takeNumber? 2 rest
  if month < 1 ∨ 12 < month ∨ day < 1 ∨ daysIn year month < day then none
  return (padded 4 year ++ '-' :: padded 2 month ++ '-' :: padded 2 day, rest)

/-- The part of a second: digits after the ninth are dropped, and zeros at the end with them. -/
def takeFraction? : List Char → Option (List Char × List Char)
  | '.' :: rest =>
      let digits := rest.takeWhile isDigit
      if digits.isEmpty then none
      else
        let kept := ((digits.take 9).reverse.dropWhile (· = '0')).reverse
        some (if kept.isEmpty then [] else '.' :: kept, rest.drop digits.length)
  | text => some ([], text)

/-- A time of day, in its normal spelling. -/
def takeTime? (bounds : MomentBounds) (text : List Char) :
    Option (List Char × List Char) := do
  let (hour, rest) ← takeNumber? 2 text
  let rest ← after? ':' rest
  let (minute, rest) ← takeNumber? 2 rest
  let rest ← after? ':' rest
  let (second, rest) ← takeNumber? 2 rest
  let (fraction, rest) ← takeFraction? rest
  if bounds.hour < hour ∨ 59 < minute ∨ 60 < second then none
  return (padded 2 hour ++ ':' :: padded 2 minute ++ ':' :: padded 2 second ++ fraction, rest)

/-- The distance from universal time, in its normal spelling; nothing for a local time. -/
def readOffset? (bounds : MomentBounds) (text : List Char) : Option (List Char) :=
  match text with
  | [] => some []
  | ['Z'] | ['z'] => some ['Z']
  | sign :: rest => do
      if sign ≠ '+' ∧ sign ≠ '-' then none
      let (hour, rest) ← takeNumber? 2 rest
      let rest ← after? ':' rest
      let (minute, rest) ← takeNumber? 2 rest
      let total := 60 * hour + minute
      if !rest.isEmpty ∨ bounds.offsetHour < hour ∨ bounds.offsetMinute < minute ∨
        bounds.offset < total then none
      let shown := if total = 0 then '+' else sign
      return shown :: padded 2 (total / 60) ++ ':' :: padded 2 (total % 60)

/-- A date, a time of day, or a date and a time with an optional distance from universal time.  The
letter between date and time may be a blank. -/
def readMoment? (bounds : MomentBounds) (text : List Char) : Option Toml :=
  let spelling? : Option (List Char) :=
    match takeDate? text with
    | some (date, []) => some date
    | some (date, mark :: rest) => do
        if mark ≠ 'T' ∧ mark ≠ 't' ∧ mark ≠ ' ' then none
        let (time, rest) ← takeTime? bounds rest
        let offset ← readOffset? bounds rest
        return date ++ 'T' :: time ++ offset
    | none =>
        match takeTime? bounds text with
        | some (time, []) => some time
        | _ => none
  spelling?.map fun spelling => .moment (String.ofList spelling)

def readToken? (token : List Char) : Option Toml :=
  match token with
  | ['t', 'r', 'u', 'e'] => some (.boolean true)
  | ['f', 'a', 'l', 's', 'e'] => some (.boolean false)
  | '0' :: 'x' :: digits => readBase? 16 digits
  | '0' :: 'o' :: digits => readBase? 8 digits
  | '0' :: 'b' :: digits => readBase? 2 digits
  | _ =>
      [readMoment? .document, readInteger?, readReal?, readSpecial?].findSome? fun read =>
        read token

end HourlyIngest.Toml
