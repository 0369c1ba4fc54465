import Mathlib.Tactic.IntervalCases
import TaskQueue.Time.Calendar

/-!
# `TaskQueue.Proofs.Time.Calendar`: every day has a date that exists

`Date.ofDays` counts in years that begin in March, so that a leap day is the last of its year.
`Date.daysBefore` are the days of such years up to a given one, and `Date.ofMarch` is the date of a
day in one of them. `Date.ofDays_eq` splits a day into its year and the day in that year, which is
all that the closed formulas of `Date.ofDays` are about. Everything else is derived from it:

* `Date.exists?_ofDays`: the date of a day exists, if its year is in range.
* `Date.toDays_ofDays`: the day of this date is the one it was made of, so no two days have the
  same date.
* `Date.year_ofDays`: which days lie in the years 0 to 9999, and `Instant.year_iff`: which seconds.

What it means that a date exists is said by `Date.OnCalendar`, without the lengths of the months
(`Date.exists?_iff`).
-/

set_option autoImplicit false

namespace TaskQueue

namespace Date

/-! ## Years that begin in March -/

/-- The days of all years before one, counted from the start of year 0. A year that begins in March
has the leap day of the year after it. -/
def daysBefore (y : Int) : Int := 365 * y + y / 4 - y / 100 + y / 400

/-- The date of a day in a year that begins in March. Days are counted from 0. -/
def ofMarch (y dayOfYear : Int) : Date :=
  let m := (5 * dayOfYear + 2) / 153
  let month := if m < 10 then m + 3 else m - 9
  ⟨y + (if month ≤ 2 then 1 else 0), month.toNat, (dayOfYear - (153 * m + 2) / 5 + 1).toNat⟩

/-- The day is one of a year that begins in March, which has 366 days if a leap day ends it. -/
def InYear (y dayOfYear : Int) : Prop :=
  0 ≤ dayOfYear ∧ (dayOfYear < 365 ∨ dayOfYear = 365 ∧ isLeap (y + 1) = true)

/-- Leap years are every fourth, without the centuries that four hundred does not divide. -/
theorem isLeap_iff (y : Int) :
    isLeap y = true ↔ y % 4 = 0 ∧ (y % 100 ≠ 0 ∨ y % 400 = 0) := by
  simp [isLeap]

/-- A day of the first 146096 lies in a century of 36524 days, there in four years of 1461 days, and
there in a year. Only the last of four years has a day more. -/
theorem split_day {day : Int} (h0 : 0 ≤ day) (h1 : day < 146096) :
    ∃ c k j d : Int, day = 36524 * c + 1461 * k + 365 * j + d ∧ 0 ≤ c ∧ c ≤ 3 ∧ 0 ≤ k ∧ k ≤ 24 ∧
      0 ≤ j ∧ j ≤ 3 ∧ 0 ≤ d ∧ 1461 * k + 365 * j + d < 36524 ∧ (d < 365 ∨ d = 365 ∧ j = 3) := by
  obtain ⟨c, hc⟩ : ∃ c, c = day / 36524 := ⟨_, rfl⟩
  obtain ⟨k, hk⟩ : ∃ k, k = (day - 36524 * c) / 1461 := ⟨_, rfl⟩
  obtain ⟨j, hj⟩ : ∃ j, j = min 3 ((day - 36524 * c - 1461 * k) / 365) := ⟨_, rfl⟩
  refine ⟨c, k, j, day - 36524 * c - 1461 * k - 365 * j, ?_⟩
  omega

/-- Four hundred years are an era. Each of its days lies in the year that the formula gives. -/
theorem yearOfEra_spec (day : Int) (h0 : 0 ≤ day) (h1 : day < 146097) :
    ∃ y, (day - day / 1460 + day / 36524 - day / 146096) / 365 = y ∧ 0 ≤ y ∧ y < 400 ∧
      InYear y (day - (365 * y + y / 4 - y / 100)) := by
  -- The centuries and the years of an era make 146096 days, and the last day is left over.
  rcases Int.lt_or_le day 146096 with hlt | hle
  · obtain ⟨c, k, j, d, rfl, hc, hc', hk, hk', hj, hj', hd, hlast, hyear⟩ := split_day h0 hlt
    have h4 : (100 * c + 4 * k + j) / 4 = 25 * c + k := by omega
    have h100 : (100 * c + 4 * k + j) / 100 = c := by omega
    have hcentury : (36524 * c + 1461 * k + 365 * j + d) / 36524 = c := by omega
    have hera : (36524 * c + 1461 * k + 365 * j + d) / 146096 = 0 := by omega
    refine ⟨100 * c + 4 * k + j, ?_, by omega, by omega, ?_, ?_⟩
    · -- The leap days are counted a little late, at the end of the fourth year at the latest.
      omega
    · rw [h4, h100]
      omega
    · rw [h4, h100, isLeap_iff]
      omega
  · obtain rfl : day = 146096 := by omega
    exact ⟨399, by decide, by decide, by decide, by decide, .inr ⟨by decide, by decide⟩⟩

/-- A day splits into a year that begins in March and a day of that year, and its date is the date
of this day. -/
theorem ofDays_eq (days : Int) :
    ∃ y dayOfYear, InYear y dayOfYear ∧ days = daysBefore y + dayOfYear - 719468 ∧
      ofDays days = ofMarch y dayOfYear := by
  obtain ⟨y, hy, hy0, hy1, h0, hyear⟩ := yearOfEra_spec ((days + 719468) % 146097)
    (by omega) (by omega)
  -- The calendar is the same in every era.
  obtain ⟨era, hera⟩ : ∃ era, era = (days + 719468) / 146097 := ⟨_, rfl⟩
  have h4 : (y + era * 400) / 4 = y / 4 + era * 100 := by omega
  have h100 : (y + era * 400) / 100 = y / 100 + era * 4 := by omega
  have h400 : (y + era * 400) / 400 = era := by omega
  have hleap : isLeap (y + 1) = true → isLeap (y + era * 400 + 1) = true := by
    rw [isLeap_iff, isLeap_iff]
    omega
  refine ⟨y + era * 400, _, ⟨h0, hyear.imp_right fun h => ⟨h.1, hleap h.2⟩⟩, ?_, ?_⟩
  · rw [daysBefore, h4, h100, h400]
    omega
  · simp only [ofDays, hy, hera]
    rfl

/-! ## Dates -/

/-- Every day of a year has a month, and is one of the days that this month has. -/
theorem ofMarch_spec {y dayOfYear : Int} (h : InYear y dayOfYear) :
    1 ≤ (ofMarch y dayOfYear).month ∧ (ofMarch y dayOfYear).month ≤ 12 ∧
      1 ≤ (ofMarch y dayOfYear).day ∧
      (ofMarch y dayOfYear).day ≤
        monthLength (ofMarch y dayOfYear).year (ofMarch y dayOfYear).month := by
  obtain ⟨h0, hyear⟩ := h
  obtain ⟨m, hm⟩ : ∃ m, m = (5 * dayOfYear + 2) / 153 := ⟨_, rfl⟩
  have hm0 : 0 ≤ m := by omega
  have hm1 : m ≤ 11 := by omega
  simp only [ofMarch, ← hm]
  -- The last month is February, so it matters only there whether the year has a leap day.
  by_cases hleap : isLeap (y + 1) = true
  · interval_cases m <;> simp [monthLength, hleap] <;> omega
  · have hshort : dayOfYear < 365 := hyear.resolve_right fun h => hleap h.2
    interval_cases m <;> simp [monthLength, hleap] <;> omega

/-- The date of a day exists if its year is in range. -/
theorem exists?_ofDays {days : Int} (hfirst : firstYear ≤ (ofDays days).year)
    (hlast : (ofDays days).year ≤ lastYear) : (ofDays days).exists? = true := by
  obtain ⟨y, dayOfYear, hin, -, hdate⟩ := ofDays_eq days
  obtain ⟨-, -, hday, hlength⟩ := ofMarch_spec hin
  rw [← hdate] at hday hlength
  simp [exists?, hfirst, hlast, hday, hlength]

/-- The month of a day is one of the twelve. -/
theorem month_ofDays (days : Int) : 1 ≤ (ofDays days).month ∧ (ofDays days).month ≤ 12 := by
  obtain ⟨y, dayOfYear, hin, -, hdate⟩ := ofDays_eq days
  obtain ⟨hfirst, hlast, -⟩ := ofMarch_spec hin
  rw [hdate]
  exact ⟨hfirst, hlast⟩

/-- No month has more than thirty-one days. -/
theorem monthLength_le (year : Int) (month : Nat) : monthLength year month ≤ 31 := by
  have hfebruary : (if isLeap year then 29 else 28) ≤ 31 := by split <;> decide
  unfold monthLength
  split <;> omega

/-- The day of the month lies in the longest month. -/
theorem day_ofDays (days : Int) : 1 ≤ (ofDays days).day ∧ (ofDays days).day ≤ 31 := by
  obtain ⟨y, dayOfYear, hin, -, hdate⟩ := ofDays_eq days
  obtain ⟨-, -, hday, hlength⟩ := ofMarch_spec hin
  rw [hdate]
  exact ⟨hday, Nat.le_trans hlength (monthLength_le _ _)⟩

/-- The days of an era are added up apart from those of the years in it. -/
theorem daysBefore_era (y : Int) :
    y / 400 * 146097 + (y % 400 * 365 + y % 400 / 4 - y % 400 / 100) = daysBefore y := by
  have h4 : y / 4 = y / 400 * 100 + y % 400 / 4 := by omega
  have h100 : y / 100 = y / 400 * 4 + y % 400 / 100 := by omega
  rw [daysBefore, h4, h100]
  omega

/-- The day of the date of a day is that day. -/
theorem toDays_ofDays (days : Int) : (ofDays days).toDays = days := by
  obtain ⟨y, dayOfYear, ⟨h0, hyear⟩, hdays, hdate⟩ := ofDays_eq days
  obtain ⟨m, hm⟩ : ∃ m, m = (5 * dayOfYear + 2) / 153 := ⟨_, rfl⟩
  have hm0 : 0 ≤ m := by omega
  have hm1 : m ≤ 11 := by omega
  have hera := daysBefore_era y
  rw [hdate, hdays]
  simp only [ofMarch, toDays, ← hm]
  interval_cases m <;> simp <;> omega

/-- The date lies in the years 0 to 9999 from the first of these days to the last. -/
theorem year_ofDays (days : Int) :
    0 ≤ (ofDays days).year ∧ (ofDays days).year ≤ 9999 ↔ -719528 ≤ days ∧ days ≤ 2932896 := by
  obtain ⟨y, dayOfYear, ⟨h0, hyear⟩, hdays, hdate⟩ := ofDays_eq days
  have hlong : dayOfYear ≤ 365 := by omega
  rw [hdate, hdays]
  simp only [ofMarch, daysBefore]
  -- The first two months of a year belong to the year before, if that begins in March. So the
  -- years -1 and 9999 are cut.
  obtain h | rfl | h | rfl | h :
      y ≤ -2 ∨ y = -1 ∨ (0 ≤ y ∧ y ≤ 9998) ∨ y = 9999 ∨ 10000 ≤ y := by omega
  all_goals split <;> omega

/-! ## The calendar -/

/-- Every fourth year has a leap day, except for full centuries that 400 does not divide. -/
def LeapYear (year : Int) : Prop := 4 ∣ year ∧ (100 ∣ year → 400 ∣ year)

/-- The day is one of the proleptic Gregorian calendar, in a year that dates can have. -/
structure OnCalendar (d : Date) : Prop where
  year : -262143 ≤ d.year ∧ d.year ≤ 262142
  month : 1 ≤ d.month ∧ d.month ≤ 12
  day : 1 ≤ d.day ∧ d.day ≤ 31
  thirty : d.month ∈ [4, 6, 9, 11] → d.day ≤ 30
  february : d.month = 2 → d.day ≤ 28 ∨ d.day = 29 ∧ LeapYear d.year

/-- Which days a month has. -/
theorem le_monthLength_iff {year : Int} {month day : Nat} (hday : 1 ≤ day) :
    day ≤ monthLength year month ↔ (1 ≤ month ∧ month ≤ 12) ∧ day ≤ 31 ∧
      (month ∈ [4, 6, 9, 11] → day ≤ 30) ∧
      (month = 2 → day ≤ 28 ∨ day = 29 ∧ LeapYear year) := by
  have hleap : isLeap year = true ↔ LeapYear year := by
    rw [isLeap_iff, LeapYear]
    omega
  have hfebruary : day ≤ (if isLeap year then 29 else 28) ↔
      day ≤ 28 ∨ day = 29 ∧ LeapYear year := by
    rw [← hleap]
    by_cases h : isLeap year = true
    · simp [h]
      omega
    · simp [h]
  -- There are only twelve months to be looked at, since any later one has no days.
  rcases Nat.lt_or_ge 12 month with hlate | hearly
  · have hnone : monthLength year month = 0 := by
      unfold monthLength
      split <;> omega
    omega
  · interval_cases month <;> simp [monthLength, hfebruary] <;> omega

/-- A date exists if and only if it is on the calendar. -/
theorem exists?_iff (d : Date) : d.exists? = true ↔ d.OnCalendar := by
  have hexists : d.exists? = true ↔ (firstYear ≤ d.year ∧ d.year ≤ lastYear) ∧ 1 ≤ d.day ∧
      d.day ≤ monthLength d.year d.month := by
    simp [exists?, and_assoc]
  rw [hexists]
  constructor
  · rintro ⟨hyear, hday, hlength⟩
    obtain ⟨hmonth, hlast, hthirty, hfebruary⟩ := (le_monthLength_iff hday).1 hlength
    exact ⟨hyear, hmonth, ⟨hday, hlast⟩, hthirty, hfebruary⟩
  · rintro ⟨hyear, hmonth, ⟨hday, hlast⟩, hthirty, hfebruary⟩
    exact ⟨hyear, hday, (le_monthLength_iff hday).2 ⟨hmonth, hlast, hthirty, hfebruary⟩⟩

end Date

/-- The seconds of the years 0 to 9999. -/
theorem Instant.year_iff (t : Instant) :
    0 ≤ t.date.year ∧ t.date.year ≤ 9999 ↔ -62167219200 ≤ t.seconds ∧ t.seconds < 253402300800 := by
  rw [Instant.date, Date.year_ofDays]
  omega

end TaskQueue
