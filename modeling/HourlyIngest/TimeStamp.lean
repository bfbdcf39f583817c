import HourlyIngest.Instant

/-!
# Time stamps

A time stamp is an instant together with the distance of the local clock from universal time.  It is
written as the date and the time of day that the local clock shows, with that distance behind them
(`TimeStamp.text`).

The distance is written in minutes.  One that is not made of whole minutes is rounded, while the
time of day in front of it is not, so that the text is off by some seconds then.
-/

namespace HourlyIngest

open Number

/-- The distance of a local clock from universal time: the seconds that it is ahead, less than a
day. -/
structure Offset where
  seconds : Int
  lower : -86400 < seconds
  upper : seconds < 86400
deriving DecidableEq, Repr

namespace Offset

/-- The distance of a clock that shows universal time. -/
def universal : Offset := ⟨0, by decide, by decide⟩

/-- The distance in minutes, rounded. -/
def minutes (offset : Offset) : Nat :=
  (offset.seconds.natAbs + 30) / 60

/-- The letter `Z` for universal time, and otherwise a sign, hours and minutes. -/
def text (offset : Offset) : List Char :=
  if offset.seconds = 0 then ['Z']
  else
    (if offset.seconds < 0 then '-' else '+') ::
      (padded 2 (offset.minutes / 60) ++ ':' :: padded 2 (offset.minutes % 60))

end Offset

/-- An instant and the local clock by which it is told. -/
structure TimeStamp where
  instant : Instant
  offset : Offset := .universal
deriving DecidableEq, Repr

namespace TimeStamp

/-- What the local clock shows, in seconds from the beginning of 1970 on. -/
def localSeconds (stamp : TimeStamp) : Int :=
  stamp.instant.seconds + stamp.offset.seconds

def secondOfDay (stamp : TimeStamp) : Nat :=
  (stamp.localSeconds % 86400).toNat

/-- Date and time of day on the local clock, and its distance from universal time. -/
def text (stamp : TimeStamp) : String :=
  let date := CalendarDate.ofDays (stamp.localSeconds / 86400)
  let time := stamp.secondOfDay
  let shown := time % 60 + if stamp.instant.isLeap then 1 else 0
  String.ofList
    (yearText date.year ++ '-' :: padded 2 date.month ++ '-' :: padded 2 date.day ++
      'T' :: padded 2 (time / 3600) ++ ':' :: padded 2 (time / 60 % 60) ++
      ':' :: padded 2 shown ++ fractionText (stamp.instant.nanos % Instant.second) ++
      stamp.offset.text)

end TimeStamp

end HourlyIngest
