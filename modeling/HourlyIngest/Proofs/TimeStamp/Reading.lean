import HourlyIngest.Proofs.Instant.Calendar
import HourlyIngest.Proofs.Number.Padded
import HourlyIngest.TimeStamp

/-!
# Time stamps read back

A reader of time stamps counts the calendar through, and so owes nothing to the way in which dates
are computed for writing.  It takes a date, the letter `T`, a time of day with up to nine digits
behind the second, and the distance from universal time, by which the time of day is set back.

A time stamp is written to the nanosecond.  It is read as the date and the time of day that the
local clock shows and the distance that is written behind them (`ofText?_text`), and so as the same
time stamp, or as one of the same instant, just if this distance is made of whole minutes
(`ofText?_text_eq_iff`, `instant_ofText?_text_iff`).

An instant in a leap second is written as second 60, which the reader does not take.
-/

namespace HourlyIngest

open Number CalendarDate
open Toml (takeNumber? after? daysIn)

/-! ## The reader -/

/-- A number of at least four digits, as many as there are. -/
def takeLongYear? (text : List Char) : Option (Nat × List Char) :=
  let digits := text.takeWhile isDigit
  if 4 ≤ digits.length then some (digitsValue digits, text.drop digits.length) else none

/-- A year: four digits, or a sign and at least four digits. -/
def takeYear? : List Char → Option (Int × List Char)
  | '+' :: rest => (takeLongYear? rest).map fun (year, rest) => (year, rest)
  | '-' :: rest => (takeLongYear? rest).map fun (year, rest) => (-year, rest)
  | text => (takeNumber? 4 text).map fun (year, rest) => (year, rest)

/-- A date, as the number of days since the beginning of 1970. -/
def takeDay? (text : List Char) : Option (Int × List Char) := do
  let (year, rest) ← takeYear? text
  let rest ← after? '-' rest
  let (month, rest) ← takeNumber? 2 rest
  let rest ← after? '-' rest
  let (day, rest) ← takeNumber? 2 rest
  if IsDate (yearInEra year) month day then
    some (dayCount year month day - dayCount 1970 1 1, rest)
  else none

/-- A time of day, in seconds. -/
def takeTime? (text : List Char) : Option (Nat × List Char) := do
  let (hour, rest) ← takeNumber? 2 text
  let rest ← after? ':' rest
  let (minute, rest) ← takeNumber? 2 rest
  let rest ← after? ':' rest
  let (second, rest) ← takeNumber? 2 rest
  if hour < 24 ∧ minute < 60 ∧ second < 60 then some ((hour * 60 + minute) * 60 + second, rest)
  else none

/-- The part of a second, in nanoseconds. -/
def takeNanos? : List Char → Option (Nat × List Char)
  | '.' :: rest =>
      let digits := rest.takeWhile isDigit
      if 0 < digits.length ∧ digits.length ≤ 9 then
        some (digitsValue digits * 10 ^ (9 - digits.length), rest.drop digits.length)
      else none
  | text => some (0, text)

namespace Offset

/-- The distance of a number of minutes, which is less than a day. -/
def ofMinutes? (minutes : Int) : Option Offset :=
  if hday : -1440 < minutes ∧ minutes < 1440 then
    some ⟨minutes * 60, by omega, by omega⟩
  else none

def ofText? : List Char → Option Offset
  | ['Z'] => some universal
  | sign :: rest => do
      let (hour, rest) ← takeNumber? 2 rest
      let rest ← after? ':' rest
      let (minute, rest) ← takeNumber? 2 rest
      if ¬ rest.isEmpty ∨ 60 ≤ minute then none
      else if sign = '+' then ofMinutes? (hour * 60 + minute)
      else if sign = '-' then ofMinutes? (-(hour * 60 + minute))
      else none
  | [] => none

end Offset

namespace TimeStamp

/-- The time stamp of what a local clock shows and its distance from universal time. -/
def ofLocal (seconds : Int) (nanos : Nat) (offset : Offset) : TimeStamp :=
  ⟨⟨seconds - offset.seconds, nanos⟩, offset⟩

/-- The time stamp of a text. -/
def ofText? (text : String) : Option TimeStamp := do
  let (day, rest) ← takeDay? text.toList
  let rest ← after? 'T' rest
  let (time, rest) ← takeTime? rest
  let (nanos, rest) ← takeNanos? rest
  let offset ← Offset.ofText? rest
  return ofLocal (day * 86400 + time) nanos offset

example : (ofText? "1969-12-31T22:00:00.25-01:30").map instant = some ⟨-1800, 250000000⟩ := by
  decide +kernel

end TimeStamp

/-! ## Dates and times -/

variable {width n : Nat} {rest : List Char}

theorem takeNumber?_padded (hwidth : 0 < width) (hn : n < 10 ^ width) :
    takeNumber? width (padded width n ++ rest) = some (n, rest) := by
  have hlength := length_padded hwidth hn
  have hdigits : (padded width n).all isDigit = true := List.all_eq_true.mpr isDigit_of_mem_padded
  rw [takeNumber?, List.take_left' hlength, List.drop_left' hlength]
  exact (if_pos ⟨hlength, hdigits⟩).trans (by rw [digitsValue_padded])

theorem after?_cons (c : Char) (rest : List Char) : after? c (c :: rest) = some rest :=
  if_pos rfl

/-- A year is read whether it has four digits or a sign. -/
theorem takeYear?_yearText (year : Int) (rest : List Char) :
    takeYear? (yearText year ++ '-' :: rest) = some (year, '-' :: rest) := by
  have hlong : takeLongYear? (padded 4 year.natAbs ++ '-' :: rest) =
      some (year.natAbs, '-' :: rest) := by
    have hend : ∀ c ∈ ('-' :: rest).head?, isDigit c = false := by
      rintro c ⟨⟩
      rfl
    rw [takeLongYear?, takeWhile_padded hend, List.drop_left]
    rw [if_pos (le_length_padded 4 _), digitsValue_padded]
  unfold yearText
  split
  · next hrange =>
    have hshort : takeNumber? 4 (padded 4 year.toNat ++ '-' :: rest) =
        some (year.toNat, '-' :: rest) := takeNumber?_padded (by decide) (by omega)
    have hvalue : (year.toNat : Int) = year := by omega
    obtain ⟨c, digits, hdigits⟩ := List.exists_cons_of_length_pos
      (Nat.lt_of_lt_of_le (by decide) (le_length_padded 4 year.toNat))
    have hc : isDigit c = true := isDigit_of_mem_padded c (hdigits ▸ List.mem_cons_self)
    rw [hdigits, List.cons_append] at hshort ⊢
    rw [takeYear?, hshort]
    · simp only [Option.map_some, hvalue]
    · rintro tail ⟨⟩
      exact (ne_of_isDigit hc).1 rfl
    · rintro tail ⟨⟩
      exact (ne_of_isDigit hc).2 rfl
  · next hrange =>
    by_cases hnegative : year < 0
    · have hvalue : -(year.natAbs : Int) = year := by omega
      simp only [if_pos hnegative, List.cons_append, takeYear?, hlong, Option.map_some, hvalue]
    · have hvalue : (year.natAbs : Int) = year := by omega
      simp only [if_neg hnegative, List.cons_append, takeYear?, hlong, Option.map_some, hvalue]

theorem takeDay?_of_isDate {date : CalendarDate}
    (hdate : IsDate (yearInEra date.year) date.month date.day) :
    takeDay? (yearText date.year ++ '-' :: (padded 2 date.month ++
      '-' :: (padded 2 date.day ++ rest))) =
      some (dayCount date.year date.month date.day - dayCount 1970 1 1, rest) := by
  have hlength : daysIn (yearInEra date.year) date.month ≤ 31 := by
    unfold daysIn
    split_ifs <;> decide
  have hbounds := hdate
  obtain ⟨-, hmonth, -, hday⟩ := hbounds
  simp (disch := omega) only [takeDay?, takeYear?_yearText, takeNumber?_padded, after?_cons,
    Option.bind_eq_bind, Option.bind_some, if_pos hdate]

/-- A second of the day is read from its hour, its minute and what is left. -/
theorem takeTime?_of_lt {time : Nat} (htime : time < 86400) :
    takeTime? (padded 2 (time / 3600) ++ ':' :: (padded 2 (time / 60 % 60) ++
      ':' :: (padded 2 (time % 60) ++ rest))) = some (time, rest) := by
  have hparts : time / 3600 < 24 ∧ time / 60 % 60 < 60 ∧ time % 60 < 60 := by omega
  have hsum : (time / 3600 * 60 + time / 60 % 60) * 60 + time % 60 = time := by omega
  simp (disch := omega) only [takeTime?, takeNumber?_padded, after?_cons, Option.bind_eq_bind,
    Option.bind_some, if_pos hparts, hsum]

/-! ## Parts of a second -/

/-- What follows the second of a time does not go on with a part of it. -/
def EndsTime (rest : List Char) : Prop :=
  ∀ c ∈ rest.head?, isDigit c = false ∧ c ≠ '.'

theorem takeNanos?_padded (hrest : EndsTime rest) (hwidth : 0 < width ∧ width ≤ 9)
    (hn : n < 10 ^ width) :
    takeNanos? ('.' :: (padded width n ++ rest)) = some (n * 10 ^ (9 - width), rest) := by
  have hlength := length_padded hwidth.1 hn
  rw [takeNanos?, takeWhile_padded fun c hc => (hrest c hc).1, List.drop_left]
  rw [hlength, if_pos hwidth, digitsValue_padded]

/-- The part of a second is read whether it has three, six, nine or no digits. -/
theorem takeNanos?_fractionText (hrest : EndsTime rest) {nanos : Nat}
    (hnanos : nanos < Instant.second) :
    takeNanos? (fractionText nanos ++ rest) = some (nanos, rest) := by
  have hsecond : Instant.second = 1000000000 := rfl
  unfold fractionText
  split
  · next hzero =>
    rw [hzero, List.nil_append, takeNanos?]
    rintro tail rfl
    exact (hrest '.' rfl).2 rfl
  split
  · next hmillis =>
    have hvalue : nanos / 1000000 * 10 ^ (9 - 3) = nanos := by omega
    rw [List.cons_append, takeNanos?_padded hrest (by decide) (by omega), hvalue]
  split
  · next hmicros =>
    have hvalue : nanos / 1000 * 10 ^ (9 - 6) = nanos := by omega
    rw [List.cons_append, takeNanos?_padded hrest (by decide) (by omega), hvalue]
  · rw [List.cons_append, takeNanos?_padded hrest (by decide) (by omega), Nat.sub_self,
      Nat.pow_zero, Nat.mul_one]

/-! ## Distances -/

namespace Offset

variable {offset : Offset}

theorem endsTime_text (offset : Offset) : EndsTime offset.text := by
  unfold text
  split
  · rintro c ⟨⟩
    decide
  · rintro c ⟨⟩
    split <;> decide

theorem ofMinutes?_eq_some_iff {minutes : Int} :
    ofMinutes? minutes = some offset ↔ minutes * 60 = offset.seconds := by
  have hlower := offset.lower
  have hupper := offset.upper
  unfold ofMinutes?
  split
  · cases offset
    simp
  · simp
    omega

/-- What is read has whole minutes. -/
theorem minutes_of_ofText? {text : List Char} (hread : ofText? text = some offset) :
    60 ∣ offset.seconds := by
  have hminutes : ∀ {minutes}, ofMinutes? minutes = some offset → 60 ∣ offset.seconds :=
    fun hsome => ⟨_, (ofMinutes?_eq_some_iff.mp hsome).symm.trans (Int.mul_comm _ _)⟩
  unfold ofText? at hread
  split at hread
  · obtain rfl := Option.some.inj hread
    exact ⟨0, rfl⟩
  · simp only [Option.bind_eq_bind, Option.bind_eq_some_iff] at hread
    obtain ⟨_, -, _, -, _, -, hread⟩ := hread
    split at hread
    · cases hread
    split at hread
    · exact hminutes hread
    split at hread
    · exact hminutes hread
    · cases hread
  · cases hread

/-- A sign, hours and minutes are read one after the other. -/
theorem ofText?_signed (sign : Char) {hour minute : Nat} (hhour : hour < 10 ^ 2)
    (hminute : minute < 60) :
    ofText? (sign :: (padded 2 hour ++ ':' :: padded 2 minute)) =
      if sign = '+' then ofMinutes? (hour * 60 + minute)
      else if sign = '-' then ofMinutes? (-(hour * 60 + minute))
      else none := by
  have hlast : takeNumber? 2 (padded 2 minute) = some (minute, []) := by
    rw [← List.append_nil (padded 2 minute)]
    exact takeNumber?_padded (by decide) (by omega)
  have hfull : ¬ (¬ ([] : List Char).isEmpty = true ∨ 60 ≤ minute) := by simp [hminute]
  rw [ofText?]
  · simp only [takeNumber?_padded (by decide : 0 < 2) hhour, after?_cons, hlast,
      Option.bind_eq_bind, Option.bind_some, if_neg hfull]
  · simp

/-- A distance of whole minutes is read from the way it is written. -/
theorem ofText?_text (hminutes : 60 ∣ offset.seconds) : ofText? offset.text = some offset := by
  obtain ⟨minutes, hseconds⟩ := hminutes
  have hlower := offset.lower
  have hupper := offset.upper
  have hwhole : offset.minutes = minutes.natAbs := by
    unfold Offset.minutes
    omega
  have hvalue : ((offset.minutes / 60 : Nat) * 60 + (offset.minutes % 60 : Nat) : Int) =
      minutes.natAbs := by omega
  have hhour : offset.minutes / 60 < 10 ^ 2 := by omega
  have hminute : offset.minutes % 60 < 60 := by omega
  unfold text
  split
  · next hzero =>
    cases offset
    simp only at hzero
    subst hzero
    rfl
  · rw [ofText?_signed _ hhour hminute]
    by_cases hnegative : offset.seconds < 0
    · rw [if_pos hnegative, if_neg (by decide), if_pos rfl]
      exact ofMinutes?_eq_some_iff.mpr (by omega)
    · rw [if_neg hnegative, if_pos rfl]
      exact ofMinutes?_eq_some_iff.mpr (by omega)

theorem ofText?_text_eq_iff : ofText? offset.text = some offset ↔ 60 ∣ offset.seconds :=
  ⟨minutes_of_ofText?, ofText?_text⟩

end Offset

/-! ## Time stamps -/

namespace TimeStamp

variable {stamp : TimeStamp}

theorem ofLocal_localSeconds (stamp : TimeStamp) :
    ofLocal stamp.localSeconds stamp.instant.nanos stamp.offset = stamp := by
  simp [ofLocal, localSeconds]

/-- **A time stamp is read as what it shows**, and the distance from universal time as it is
written. -/
theorem ofText?_text (hnanos : stamp.instant.nanos < Instant.second) :
    ofText? stamp.text =
      (Offset.ofText? stamp.offset.text).map (ofLocal stamp.localSeconds stamp.instant.nanos) := by
  obtain ⟨hdate, hcount⟩ := dayCount_ofDays (Eq.refl (ofDays (stamp.localSeconds / 86400)))
  have hleap : stamp.instant.isLeap = false := decide_eq_false (Nat.not_le.mpr hnanos)
  have htime : stamp.secondOfDay < 86400 := by
    unfold secondOfDay
    omega
  have hseconds : stamp.localSeconds / 86400 * 86400 + stamp.secondOfDay = stamp.localSeconds := by
    unfold secondOfDay
    omega
  have hrest := stamp.offset.endsTime_text
  rw [ofText?]
  simp only [text, String.toList_ofList, hleap, Bool.false_eq_true, if_false, Nat.add_zero,
    Nat.mod_eq_of_lt hnanos, List.append_assoc, List.cons_append, takeDay?_of_isDate hdate, hcount,
    Int.add_sub_cancel, after?_cons, takeTime?_of_lt htime, takeNanos?_fractionText hrest hnanos,
    Option.bind_eq_bind, Option.bind_some, hseconds]
  cases Offset.ofText? stamp.offset.text <;> rfl

/-- It is the same time stamp just if its distance is made of whole minutes. -/
theorem ofText?_text_eq_iff (hnanos : stamp.instant.nanos < Instant.second) :
    ofText? stamp.text = some stamp ↔ 60 ∣ stamp.offset.seconds := by
  rw [ofText?_text hnanos, ← Offset.ofText?_text_eq_iff, Option.map_eq_some_iff]
  constructor
  · rintro ⟨offset, hread, hsame⟩
    rw [hread, ← hsame]
    rfl
  · intro hread
    exact ⟨stamp.offset, hread, ofLocal_localSeconds stamp⟩

theorem instant_ofText?_text_iff (hnanos : stamp.instant.nanos < Instant.second) :
    (ofText? stamp.text).map instant = some stamp.instant ↔ 60 ∣ stamp.offset.seconds := by
  constructor
  · intro hread
    rw [ofText?_text hnanos, Option.map_map, Option.map_eq_some_iff] at hread
    obtain ⟨offset, hread, hsame⟩ := hread
    have hseconds : stamp.localSeconds - offset.seconds = stamp.instant.seconds :=
      congrArg Instant.seconds hsame
    have hoffset : offset.seconds = stamp.offset.seconds := by
      unfold localSeconds at hseconds
      omega
    exact hoffset ▸ Offset.minutes_of_ofText? hread
  · intro hminutes
    rw [(ofText?_text_eq_iff hnanos).mpr hminutes, Option.map_some]

end TimeStamp

end HourlyIngest
