import HourlyIngest.Instant
import HourlyIngest.Toml.Scalar
import Mathlib.Tactic.Ring

/-!
# Dates counted through

The calendar is counted through from the first of January of year 0: before a date lie the years
before its year, the months before its month, and the days before its day (`dayNumber`).  It repeats
itself in eras of 400 years, by which all other years are reached (`dayCount`).  The date of a
number of days is computed without counting, and is the right one (`dayCount_ofDays`).

The computation counts years from March.  Eras of 400 years are equally long, and in an era the
number of the year is found by a division in which leap days are taken off first
(`yearOfEra_century`).  From March on the months begin at the same days in every year
(`beginOfMonth`).
-/

namespace HourlyIngest.CalendarDate

open Toml (daysIn)

/-! ## Counting -/

/-- The days in the first months of a year. -/
def daysOfMonths (year : Nat) : Nat → Nat
  | 0 => 0
  | month + 1 => daysOfMonths year month + daysIn year (month + 1)

/-- The days in the years before a year, from year 0 on. -/
def daysOfYears : Nat → Nat
  | 0 => 0
  | year + 1 => daysOfYears year + daysOfMonths year 12

/-- The number of days before a date, from the first of January of year 0 on. -/
def dayNumber (year month day : Nat) : Nat :=
  daysOfYears year + daysOfMonths year (month - 1) + (day - 1)

/-- The year has such a month, and the month such a day. -/
def IsDate (year month day : Nat) : Prop :=
  1 ≤ month ∧ month ≤ 12 ∧ 1 ≤ day ∧ day ≤ daysIn year month

instance (year month day : Nat) : Decidable (IsDate year month day) :=
  inferInstanceAs (Decidable (_ ∧ _))

/-! ## Months -/

/-- The days from the first of March to the first of a month, months counted from March. -/
def beginOfMonth (monthFromMarch : Nat) : Nat :=
  (153 * monthFromMarch + 2) / 5

variable {year month : Nat}

theorem daysIn_february (year : Nat) :
    daysIn year 2 = if year % 4 = 0 ∧ (year % 100 ≠ 0 ∨ year % 400 = 0) then 29 else 28 :=
  if_pos rfl

/-- From March to December the months have the same lengths in every year. -/
theorem beginOfMonth_succ (year : Nat) (hmonth : month < 10) :
    beginOfMonth (month + 1) = beginOfMonth month + daysIn year (month + 3) := by
  have hlengths : ∀ month < 10,
      beginOfMonth (month + 1) = beginOfMonth month + daysIn 0 (month + 3) := by decide
  have hyear : daysIn year (month + 3) = daysIn 0 (month + 3) := by
    have hmarch : month + 3 ≠ 2 := by omega
    unfold daysIn
    rw [if_neg hmarch, if_neg hmarch]
  rw [hyear]
  exact hlengths month hmonth

theorem daysOfMonths_fromMarch (year : Nat) (hmonth : month ≤ 10) :
    daysOfMonths year (month + 2) = 31 + daysIn year 2 + beginOfMonth month := by
  induction month with
  | zero => exact congrArg (· + daysIn year 2) (Nat.zero_add 31)
  | succ month ih =>
      rw [daysOfMonths, ih (by omega), beginOfMonth_succ year (by omega), Nat.add_assoc]

/-! ## Years -/

/-- There is a leap day for every fourth year, but not for every hundredth, and yet for every four
hundredth. -/
theorem daysOfYears_eq (year : Nat) :
    daysOfYears year + (year + 99) / 100 = 365 * year + (year + 3) / 4 + (year + 399) / 400 := by
  induction year with
  | zero => rfl
  | succ year ih =>
      have hyear : daysOfMonths year 12 = 31 + daysIn year 2 + beginOfMonth 10 :=
        daysOfMonths_fromMarch year (Nat.le_refl 10)
      have hbegin : beginOfMonth 10 = 306 := rfl
      have hfebruary := daysIn_february year
      rw [daysOfYears, hyear, hbegin]
      split at hfebruary
      · omega
      · omega

/-- The days before a date from March on. -/
theorem dayNumber_march (year day : Nat) (hmonth : month ≤ 10) :
    dayNumber year (month + 3) (day + 1) + year / 100 =
      365 * year + year / 4 + year / 400 + 60 + beginOfMonth month + day := by
  have hyears := daysOfYears_eq year
  have hmonths : daysOfMonths year (month + 3 - 1) = 31 + daysIn year 2 + beginOfMonth month :=
    daysOfMonths_fromMarch year hmonth
  have hfebruary := daysIn_february year
  rw [dayNumber, hmonths]
  split at hfebruary
  · omega
  · omega

/-- The days before a date in January or February. -/
theorem dayNumber_january (year day : Nat) (hmonth : month ≤ 1) :
    dayNumber year (month + 1) (day + 1) = daysOfYears year + 31 * month + day := by
  obtain rfl | rfl := Nat.le_one_iff_eq_zero_or_eq_one.mp hmonth
  · rfl
  · rfl

/-! ## The date of a day -/

/-- The date of a day that is given by the year, counted from March, and the number of days since
its first of March. -/
def fromMarch (year : Int) (dayOfYear : Nat) : CalendarDate :=
  let monthFromMarch := (5 * dayOfYear + 2) / 153
  let day := dayOfYear - beginOfMonth monthFromMarch + 1
  let month := if monthFromMarch < 10 then monthFromMarch + 3 else monthFromMarch - 9
  ⟨year + (if month ≤ 2 then 1 else 0), month, day⟩

/-- The year of an era, within a hundred years that begin `century` hundred years after the era.
With the leap days that were left out added again, a year begins every 365 and a quarter days. -/
theorem yearOfEra_century {century dayOfEra yearOfEra : Nat} (hcentury : century ≤ 3)
    (hlow : 36524 * century ≤ dayOfEra) (hhigh : dayOfEra < 36524 * (century + 1))
    (hyear : yearOfEra = (dayOfEra - dayOfEra / 1460 + century) / 365) :
    yearOfEra / 100 = century ∧ 365 * yearOfEra + yearOfEra / 4 ≤ dayOfEra + century ∧
      dayOfEra + century ≤ 365 * yearOfEra + yearOfEra / 4 + 365 ∧
      (dayOfEra + century = 365 * yearOfEra + yearOfEra / 4 + 365 →
        daysIn (yearOfEra + 1) 2 = 29) := by
  have hhundred : yearOfEra / 100 = century := by omega
  refine ⟨hhundred, by omega, by omega, ?_⟩
  intro hlast
  have hfourth : yearOfEra % 4 = 3 := by omega
  rw [daysIn_february, if_pos ⟨by omega, by omega⟩]

/-- A year has its days within the days of the era, the last of them a leap day. -/
theorem yearOfEra_spec {dayOfEra yearOfEra : Nat} (hera : dayOfEra < 146097)
    (hyear : yearOfEra =
      (dayOfEra - dayOfEra / 1460 + dayOfEra / 36524 - dayOfEra / 146096) / 365) :
    ∃ dayOfYear ≤ 365, dayOfEra + yearOfEra / 100 = 365 * yearOfEra + yearOfEra / 4 + dayOfYear ∧
      yearOfEra < 400 ∧ (dayOfYear = 365 → daysIn (yearOfEra + 1) 2 = 29) := by
  by_cases hlast : dayOfEra = 146096
  · obtain rfl : yearOfEra = 399 := by omega
    exact ⟨365, Nat.le_refl 365, by omega, by decide, fun _ => rfl⟩
  · have hcentury : dayOfEra / 36524 ≤ 3 := by omega
    have hfourth : dayOfEra / 146096 = 0 := by omega
    rw [hfourth, Nat.sub_zero] at hyear
    obtain ⟨hhundred, hlow, hhigh, hleap⟩ :=
      yearOfEra_century hcentury (by omega) (by omega) hyear
    refine ⟨dayOfEra + yearOfEra / 100 - (365 * yearOfEra + yearOfEra / 4), by omega, by omega,
      by omega, ?_⟩
    intro hday
    exact hleap (by omega)

/-- The calendar repeats itself after 400 years. -/
theorem daysIn_february_add (year era : Nat) : daysIn (year + 400 * era) 2 = daysIn year 2 := by
  have hfourth : (year + 400 * era) % 4 = year % 4 := by omega
  have hhundredth : (year + 400 * era) % 100 = year % 100 := by omega
  rw [daysIn_february, daysIn_february, hfourth, hhundredth, Nat.add_mul_mod_self_left]

/-- The days before the first of March of a year, from the first of March of year 0 on. -/
def daysBeforeMarch (year : Int) : Int :=
  365 * year + year / 4 - year / 100 + year / 400

/-- The date of a day lies in the year that the day lies in, and there within its days. -/
theorem ofDays_eq_fromMarch (days : Int) :
    ∃ year dayOfYear, ofDays days = fromMarch year dayOfYear ∧
      days + 719468 = daysBeforeMarch year + dayOfYear ∧ dayOfYear ≤ 365 ∧
      (dayOfYear = 365 → 0 ≤ year + 1 → daysIn (year + 1).toNat 2 = 29) := by
  let era := (days + 719468) / 146097
  let dayOfEra := ((days + 719468) % 146097).toNat
  let yearOfEra := (dayOfEra - dayOfEra / 1460 + dayOfEra / 36524 - dayOfEra / 146096) / 365
  have hdays : days + 719468 = era * 146097 + dayOfEra := by omega
  obtain ⟨dayOfYear, hbound, hday, hyear, hleap⟩ :=
    @yearOfEra_spec dayOfEra yearOfEra (by omega) rfl
  have hofDays : ofDays days = fromMarch (yearOfEra + era * 400)
      (dayOfEra - (365 * yearOfEra + yearOfEra / 4 - yearOfEra / 100)) := rfl
  have hsame : dayOfEra - (365 * yearOfEra + yearOfEra / 4 - yearOfEra / 100) = dayOfYear := by
    omega
  rw [hsame] at hofDays
  clear_value era dayOfEra yearOfEra
  refine ⟨yearOfEra + era * 400, dayOfYear, hofDays, ?_, hbound, ?_⟩
  · unfold daysBeforeMarch
    omega
  · intro hlast hpositive
    by_cases hera : era < 0
    · -- the last day of the February of year 0
      have hzero : (yearOfEra + era * 400 + 1).toNat = 0 := by omega
      rw [hzero]
      rfl
    · have hnat : (yearOfEra + era * 400 + 1).toNat = yearOfEra + 1 + 400 * era.toNat := by omega
      rw [hnat, daysIn_february_add]
      exact hleap hlast

/-- The date of a day from March to December. -/
theorem fromMarch_of_lt {dayOfYear : Nat} (year : Int) (hmonth : (5 * dayOfYear + 2) / 153 = month)
    (hlt : month < 10) :
    fromMarch year dayOfYear = ⟨year, month + 3, dayOfYear - beginOfMonth month + 1⟩ := by
  have hlate : ¬ month + 3 ≤ 2 := by omega
  simp only [fromMarch, hmonth, if_pos hlt, if_neg hlate, Int.add_zero]

/-- The date of a day in January or February, which belong to the next year. -/
theorem fromMarch_of_le {dayOfYear : Nat} (year : Int)
    (hmonth : (5 * dayOfYear + 2) / 153 = month + 10) (hle : month ≤ 1) :
    fromMarch year dayOfYear =
      ⟨year + 1, month + 1, dayOfYear - beginOfMonth (month + 10) + 1⟩ := by
  have hearly : month + 10 - 9 = month + 1 := by omega
  have hlate : ¬ month + 10 < 10 := by omega
  have htwo : month + 1 ≤ 2 := by omega
  simp only [fromMarch, hmonth, if_neg hlate, hearly, if_pos htwo]

/-- The year after a first of March begins 306 days later. -/
theorem daysOfYears_toNat {year : Int} (hyear : 0 ≤ year + 1) :
    (daysOfYears (year + 1).toNat : Int) = daysBeforeMarch year + 366 := by
  have hyears := daysOfYears_eq (year + 1).toNat
  have hfourth : (((year + 1).toNat + 3) / 4 : Int) = year / 4 + 1 := by omega
  have hhundredth : (((year + 1).toNat + 99) / 100 : Int) = year / 100 + 1 := by omega
  have hera : (((year + 1).toNat + 399) / 400 : Int) = year / 400 + 1 := by omega
  unfold daysBeforeMarch
  omega

section Months

variable {dayOfYear : Nat}

/-- A day from March to December is in the calendar. -/
theorem isDate_march (year : Nat) (hlt : month < 10) (hbegin : beginOfMonth month ≤ dayOfYear)
    (hend : dayOfYear < beginOfMonth (month + 1)) :
    IsDate year (month + 3) (dayOfYear - beginOfMonth month + 1) := by
  have hlength := beginOfMonth_succ year hlt
  exact ⟨by omega, by omega, by omega, by omega⟩

/-- A day in January or February is in the calendar, if a leap day stands in a leap year. -/
theorem isDate_january (year : Nat) (hle : month ≤ 1)
    (hbegin : beginOfMonth (month + 10) ≤ dayOfYear)
    (hend : dayOfYear < beginOfMonth (month + 11)) (hbound : dayOfYear ≤ 365)
    (hleap : dayOfYear = 365 → daysIn year 2 = 29) :
    IsDate year (month + 1) (dayOfYear - beginOfMonth (month + 10) + 1) := by
  refine ⟨by omega, by omega, by omega, ?_⟩
  obtain rfl | rfl := Nat.le_one_iff_eq_zero_or_eq_one.mp hle
  · have hjanuary : daysIn year (0 + 1) = 31 := rfl
    have hnext : beginOfMonth (0 + 11) = beginOfMonth (0 + 10) + 31 := rfl
    omega
  · have hfirst : beginOfMonth (1 + 10) = 337 := rfl
    have hfebruary := daysIn_february year
    show _ ≤ daysIn year 2
    by_cases hlast : dayOfYear = 365
    · rw [hleap hlast]
      omega
    · split at hfebruary <;> omega

end Months

/-- The date of a day of a year that is not before year 0 is in the calendar, and the count gives
back the day. -/
theorem dayNumber_fromMarch {year : Int} {dayOfYear : Nat} {date : CalendarDate}
    (hdate : fromMarch year dayOfYear = date) (hyear : 0 ≤ date.year) (hbound : dayOfYear ≤ 365)
    (hleap : dayOfYear = 365 → 0 ≤ year + 1 → daysIn (year + 1).toNat 2 = 29) :
    IsDate date.year.toNat date.month date.day ∧
      (dayNumber date.year.toNat date.month date.day : Int) =
        daysBeforeMarch year + dayOfYear + 60 := by
  generalize hmonth : (5 * dayOfYear + 2) / 153 = month
  have hbegin : beginOfMonth month ≤ dayOfYear ∧ dayOfYear < beginOfMonth (month + 1) := by
    unfold beginOfMonth
    omega
  by_cases hlt : month < 10
  · rw [fromMarch_of_lt year hmonth hlt] at hdate
    subst hdate
    obtain ⟨y, rfl⟩ := Int.eq_ofNat_of_zero_le hyear
    have hnumber := dayNumber_march y (dayOfYear - beginOfMonth month) (Nat.le_of_lt hlt)
    dsimp only
    rw [Int.toNat_natCast]
    refine ⟨isDate_march y hlt hbegin.1 hbegin.2, ?_⟩
    unfold daysBeforeMarch
    omega
  · obtain ⟨month, rfl⟩ : ∃ m, month = m + 10 := ⟨month - 10, by omega⟩
    have hle : month ≤ 1 := by omega
    rw [fromMarch_of_le year hmonth hle] at hdate
    subst hdate
    have hyears := daysOfYears_toNat hyear
    have hnumber := dayNumber_january (year + 1).toNat (dayOfYear - beginOfMonth (month + 10)) hle
    have hfirst : beginOfMonth (month + 10) = 306 + 31 * month := by
      unfold beginOfMonth
      omega
    dsimp only at hyear ⊢
    exact ⟨isDate_january _ hle hbegin.1 hbegin.2 hbound fun hlast => hleap hlast hyear, by omega⟩

/-- A year begins with its first day. -/
theorem dayNumber_newYear (year : Nat) : dayNumber year 1 1 = daysOfYears year :=
  dayNumber_january year 0 (Nat.zero_le 1)

/-- The number of days from the first of January of year 0 to that of 1970. -/
theorem dayNumber_epoch : dayNumber 1970 1 1 = 719528 := by
  have hyears := daysOfYears_eq 1970
  rw [dayNumber_newYear]
  omega

variable {days : Int}

/-- The date that is computed from a number of days is the one that the count gives back. -/
theorem dayNumber_ofDays {date : CalendarDate} (hdate : ofDays days = date)
    (hyear : 0 ≤ date.year) :
    IsDate date.year.toNat date.month date.day ∧
      (dayNumber date.year.toNat date.month date.day : Int) = days + dayNumber 1970 1 1 := by
  obtain ⟨year, dayOfYear, hofDays, hdays, hbound, hleap⟩ := ofDays_eq_fromMarch days
  obtain ⟨hin, hnumber⟩ := dayNumber_fromMarch (hofDays.symm.trans hdate) hyear hbound hleap
  refine ⟨hin, ?_⟩
  rw [hnumber, dayNumber_epoch]
  omega

/-! ## Eras -/

/-- The date that lies some eras later differs in its year alone. -/
theorem ofDays_add_eras (days eras : Int) :
    ofDays (days + 146097 * eras) =
      { ofDays days with year := (ofDays days).year + 400 * eras } := by
  have hera : (days + 146097 * eras + 719468) / 146097 = (days + 719468) / 146097 + eras := by
    omega
  have hday : (days + 146097 * eras + 719468) % 146097 = (days + 719468) % 146097 := by omega
  simp only [ofDays, hera, hday, CalendarDate.mk.injEq, and_true]
  ring

/-- The number of a year within its era of 400 years. -/
def yearInEra (year : Int) : Nat :=
  (year % 400).toNat

/-- The days before a date of any year.  An era has as many days as any other, and years at the same
place of their eras have the same calendar. -/
def dayCount (year : Int) (month day : Nat) : Int :=
  dayNumber (yearInEra year) month day + 146097 * (year / 400)

theorem daysIn_add_eras (year eras month : Nat) :
    daysIn (year + 400 * eras) month = daysIn year month := by
  by_cases hmonth : month = 2
  · rw [hmonth, daysIn_february_add]
  · unfold daysIn
    rw [if_neg hmonth, if_neg hmonth]

theorem daysOfMonths_add_eras (year eras month : Nat) :
    daysOfMonths (year + 400 * eras) month = daysOfMonths year month := by
  induction month with
  | zero => rfl
  | succ month ih => rw [daysOfMonths, daysOfMonths, ih, daysIn_add_eras]

/-- From year 0 on this is what is counted through. -/
theorem dayCount_natCast (year month day : Nat) :
    dayCount year month day = dayNumber year month day := by
  have hin : yearInEra year = year % 400 := by
    unfold yearInEra
    omega
  have hyear : year % 400 + 400 * (year / 400) = year := Nat.mod_add_div year 400
  have hmonths := daysOfMonths_add_eras (year % 400) (year / 400) (month - 1)
  have hyears := daysOfYears_eq year
  have hera := daysOfYears_eq (year % 400)
  rw [hyear] at hmonths
  rw [dayCount, hin, dayNumber, dayNumber, hmonths]
  omega

/-- **The date that is computed from a number of days is the one that lies so many days after the
beginning of 1970**, whatever its year. -/
theorem dayCount_ofDays {date : CalendarDate} (hdate : ofDays days = date) :
    IsDate (yearInEra date.year) date.month date.day ∧
      dayCount date.year date.month date.day = days + dayCount 1970 1 1 := by
  -- the date of the same day of the era that begins with year 0
  have hshifted := ofDays_add_eras days (-(date.year / 400))
  have hyear : date.year + 400 * -(date.year / 400) = date.year % 400 := by omega
  rw [hdate, hyear] at hshifted
  obtain ⟨hin, hnumber⟩ := dayNumber_ofDays hshifted (by simp only; omega)
  refine ⟨hin, ?_⟩
  have hepoch : dayCount 1970 1 1 = dayNumber 1970 1 1 := dayCount_natCast 1970 1 1
  rw [hepoch, dayCount]
  dsimp only at hnumber
  unfold yearInEra
  omega

end HourlyIngest.CalendarDate
