import HourlyIngest.Number.Numeral
import HourlyIngest.Number.Shortest

/-!
# Instants

A point in time is a number of seconds since the beginning of 1970 in universal time and a number
of nanoseconds after it.  Days are dated by the Gregorian calendar, extended to all years.

The seconds do not count leap seconds.  An instant within one is that of the second before it with
a further second of nanoseconds; it is written as second 60.
-/

namespace HourlyIngest

open Number

/-- A point in time.  Beyond a whole second of nanoseconds it lies in a leap second. -/
structure Instant where
  seconds : Int
  nanos : Nat
deriving DecidableEq, Repr

/-- A day of the calendar. -/
structure CalendarDate where
  year : Int
  month : Nat
  day : Nat
deriving DecidableEq, Repr

/-- The date of the day that lies `days` after the first of January 1970.  Years are counted from
March, in eras of 400 years, so that leap days come last. -/
def CalendarDate.ofDays (days : Int) : CalendarDate :=
  let shifted := days + 719468
  let era := shifted / 146097
  let dayOfEra := (shifted % 146097).toNat
  let yearOfEra :=
    (dayOfEra - dayOfEra / 1460 + dayOfEra / 36524 - dayOfEra / 146096) / 365
  let dayOfYear := dayOfEra - (365 * yearOfEra + yearOfEra / 4 - yearOfEra / 100)
  let monthFromMarch := (5 * dayOfYear + 2) / 153
  let day := dayOfYear - (153 * monthFromMarch + 2) / 5 + 1
  let month := if monthFromMarch < 10 then monthFromMarch + 3 else monthFromMarch - 9
  ⟨yearOfEra + era * 400 + (if month ≤ 2 then 1 else 0), month, day⟩

/-- A year of four digits; a year outside of 0 to 9999 has a sign. -/
def yearText (year : Int) : List Char :=
  if 0 ≤ year ∧ year ≤ 9999 then padded 4 year.toNat
  else (if year < 0 then '-' else '+') :: padded 4 year.natAbs

/-- The part of a second: nothing, or three, six or nine digits, as many as are needed. -/
def fractionText (nanos : Nat) : List Char :=
  if nanos = 0 then []
  else if nanos % 1000000 = 0 then '.' :: padded 3 (nanos / 1000000)
  else if nanos % 1000 = 0 then '.' :: padded 6 (nanos / 1000)
  else '.' :: padded 9 nanos

namespace Instant

/-- The number of nanoseconds in a second. -/
def second : Nat := 1000000000

/-- Whether the instant lies in a leap second. -/
def isLeap (instant : Instant) : Bool :=
  second ≤ instant.nanos

def secondOfDay (instant : Instant) : Nat :=
  (instant.seconds % 86400).toNat

/-- The leap seconds that are known to lie between two instants: that of the earlier one by the
clock, if the clock has passed it. -/
def leapsUntil (first last : Instant) : Int :=
  if first.secondOfDay < last.secondOfDay ∧ first.isLeap then 1
  else if last.secondOfDay < first.secondOfDay ∧ last.isLeap then -1
  else 0

/-- The whole milliseconds from one instant to another, cut off towards zero. -/
def millisecondsUntil (first last : Instant) : Int :=
  let seconds := last.seconds - first.seconds + leapsUntil first last
  Int.tdiv (seconds * second + ((last.nanos : Int) - first.nanos)) 1000000

/-- A number of milliseconds in seconds, with one place after the point. -/
def secondsText (milliseconds : Int) : String :=
  ((Binary64.ofInt milliseconds).divideBy 1000).toTenths

end Instant

end HourlyIngest
