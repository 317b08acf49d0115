/-
  The calendar counts days as its years and months do.

  A date is found from a count of days by way of eras and of years that start in March
  (`CivilDate.ofDays`). Here the count is told from the date, by the lengths of years and months
  (`dayNumber`), and both are shown to be inverse to each other:

  1. **A day of an era** is a century, a cycle of four years, a year of the cycle and a day of that year
     (`Parts`). So a date is a day counted from the first of March of some year (`exists_fromMarch`).

  2. **From a number to a date and back** (`dayNumber_ofDays`, `valid_ofDays`): from March on the months
     have the lengths that the count supposes (`daysBeforeMonth_add_three`).

  3. **From a date to a number and back** (`ofDays_dayNumber`): of two dates the later one has the larger
     number, so a number has one date.

  With the time of day, every calendar time of the years 1 to 9999 is that of an instant, and no other one
  is (`valid_iff_exists_calendar`), and its distance from the epoch is the count of the instant
  (`micros_calendar`).
-/
import Mathlib.Tactic.IntervalCases
import WebhookRegistry.Time.Calendar

namespace WebhookRegistry

namespace CivilDate

/-! ## Years and months -/

/-- Whether a year has a leap day. -/
def isLeapYear (year : Int) : Bool :=
  decide (year % 4 = 0) && (decide (year % 100 ≠ 0) || decide (year % 400 = 0))

/-- The number of leap days of a year. -/
def leapDays (year : Int) : Nat := if isLeapYear year then 1 else 0

/-- The number of days of a month. -/
def monthLength (year : Int) : Nat → Nat
  | 2 => 28 + leapDays year
  | 4 | 6 | 9 | 11 => 30
  | _ => 31

/-- The number of days of a year before a month. -/
def daysBeforeMonth (year : Int) : Nat → Nat
  | 0 | 1 => 0
  | month + 2 => daysBeforeMonth year (month + 1) + monthLength year (month + 1)

/-- The number of days before a year, counted from the year 1. -/
def daysBeforeYear (year : Int) : Int :=
  365 * (year - 1) + (year - 1) / 4 - (year - 1) / 100 + (year - 1) / 400

/-- The number of a date, counted from 1970-01-01. -/
def dayNumber (d : CivilDate) : Int :=
  daysBeforeYear d.year + daysBeforeMonth d.year d.month + d.day - 719163

/-- Whether a date is one of the calendar. -/
structure Valid (d : CivilDate) : Prop where
  one_le_month : 1 ≤ d.month
  month_le : d.month ≤ 12
  one_le_day : 1 ≤ d.day
  day_le : d.day ≤ monthLength d.year d.month

theorem leapDays_le_one (year : Int) : leapDays year ≤ 1 := by
  unfold leapDays
  split <;> omega

/-- **A year has 365 days**, and one more if it is a leap year. -/
theorem daysBeforeYear_succ (year : Int) :
    daysBeforeYear (year + 1) = daysBeforeYear year + 365 + leapDays year := by
  unfold daysBeforeYear leapDays isLeapYear
  simp only [Bool.and_eq_true, Bool.or_eq_true, decide_eq_true_eq]
  split <;> omega

theorem daysBeforeYear_one : daysBeforeYear 1 = 0 := rfl

theorem daysBeforeYear_tenThousand : daysBeforeYear 10000 = 3652059 := rfl

/-- **The months from March on** start at the multiples of a fixed length, rounded down. -/
theorem daysBeforeMonth_add_three (year : Int) {m : Nat} (h : m ≤ 10) :
    daysBeforeMonth year (m + 3) = (153 * m + 2) / 5 + 59 + leapDays year := by
  interval_cases m <;> simp only [daysBeforeMonth, monthLength] <;> omega

/-- The months of a year make a year. -/
theorem daysBeforeMonth_thirteen (year : Int) :
    daysBeforeMonth year 13 = 365 + leapDays year := by
  have h := daysBeforeMonth_add_three year (m := 10) (by omega)
  omega

/-- The next month starts when a month is over. -/
theorem daysBeforeMonth_succ (year : Int) {month : Nat} (h : 1 ≤ month) :
    daysBeforeMonth year (month + 1) = daysBeforeMonth year month + monthLength year month := by
  obtain ⟨m, rfl⟩ : ∃ m, month = m + 1 := ⟨month - 1, by omega⟩
  rfl

/-! ## Days of an era -/

/-- Whether a day of an era of 400 years is a day `d` of year `r` in cycle `q` of century `c`. Of the
    years of a cycle the last one has the leap day, except in the last cycle of the first three
    centuries. -/
structure Parts (n c q r d : Nat) : Prop where
  century : c ≤ 3
  cycle : q ≤ 24
  year : r ≤ 3
  sum : n = 36524 * c + 1461 * q + 365 * r + d
  day : d < 365 ∨ d = 365 ∧ r = 3 ∧ (q < 24 ∨ c = 3)

theorem exists_parts {n : Nat} (h : n < 146097) : ∃ c q r d, Parts n c q r d := by
  by_cases hlast : n = 146096
  · exact ⟨3, 24, 3, 365, by omega, by omega, by omega, by omega, by omega⟩
  · let c := n / 36524
    let q := n % 36524 / 1461
    let dayOfCycle := n % 36524 % 1461
    by_cases hleap : dayOfCycle = 1460
    · exact ⟨c, q, 3, 365, by omega, by omega, by omega, by omega, by omega⟩
    · exact ⟨c, q, dayOfCycle / 365, dayOfCycle % 365, by omega, by omega, by omega, by omega, by omega⟩

/-- **The year of a day of an era**, as the calendar finds it. -/
theorem Parts.yearOfEra {n c q r d : Nat} (h : Parts n c q r d) :
    (n - n / 1460 + n / 36524 - n / 146096) / 365 = 100 * c + 4 * q + r := by
  obtain ⟨hc, hq, hr, hn, hd⟩ := h
  -- The last day of an era counts as one of a fifth century, which the last quotient takes back.
  have hcentury : n / 36524 = c + n / 146096 := by
    rcases Nat.lt_or_ge n 146096 with hlt | hge
    · rw [Nat.div_eq_of_lt hlt]
      rcases hd with hd | ⟨hd, hr, hq | hc⟩ <;> omega
    · omega
  have hcycles : n / 1460 = 25 * c + q ∧ d < 365 ∨ n / 1460 = 25 * c + q + 1 ∧ 0 < d := by omega
  omega

/-! ## Years that start in March -/

/-- The date of a day counted from the first of March of a year. -/
def fromMarch (year : Int) (n : Nat) : CivilDate :=
  let marchMonth := (5 * n + 2) / 153
  let month := if marchMonth < 10 then marchMonth + 3 else marchMonth - 9
  ⟨year + (if month ≤ 2 then 1 else 0), month, n - (153 * marchMonth + 2) / 5 + 1⟩

/-- **A date is a day counted from the first of March** of some year; the leap day is the last one. -/
theorem exists_fromMarch (n : Int) :
    ∃ (year : Int) (d : Nat), ofDays n = fromMarch year d ∧
      n = daysBeforeYear (year + 1) + d - 719468 ∧ d < 365 + leapDays (year + 1) := by
  obtain ⟨c, q, r, d, h⟩ := exists_parts (n := ((n + 719468) % 146097).toNat) (by omega)
  have hyearOfEra := h.yearOfEra
  obtain ⟨hc, hq, hr, hn, hd⟩ := h
  let era := (n + 719468) / 146097
  refine ⟨400 * era + 100 * c + 4 * q + r, d, ?_, ?_, ?_⟩
  · have hday : ((n + 719468) % 146097).toNat - (365 * (100 * c + 4 * q + r) +
        (100 * c + 4 * q + r) / 4 - (100 * c + 4 * q + r) / 100) = d := by omega
    have hyear : ((100 * c + 4 * q + r : Nat) : Int) + era * 400 =
        400 * era + 100 * c + 4 * q + r := by omega
    unfold ofDays fromMarch
    dsimp only
    rw [hyearOfEra, hday, hyear]
  · have h4 : (400 * era + 100 * c + 4 * q + r) / 4 = 100 * era + 25 * c + q := by omega
    have h100 : (400 * era + 100 * c + 4 * q + r) / 100 = 4 * era + c := by omega
    have h400 : (400 * era + 100 * c + 4 * q + r) / 400 = era := by omega
    unfold daysBeforeYear
    rw [Int.add_sub_cancel, h4, h100, h400]
    omega
  · rcases hd with hd | ⟨hd, hr, hleap⟩
    · omega
    · have hyear : isLeapYear (400 * era + 100 * c + 4 * q + r + 1) = true := by
        unfold isLeapYear
        simp only [Bool.and_eq_true, Bool.or_eq_true, decide_eq_true_eq]
        omega
      unfold leapDays
      rw [if_pos hyear]
      omega

/-- A day counted from March is one of the ten months of its year, or in January or February of the
    next one. -/
theorem fromMarch_cases (year : Int) {n : Nat} (h : n ≤ 365) :
    (∃ m ≤ 9, fromMarch year n = ⟨year, m + 3, n - (153 * m + 2) / 5 + 1⟩ ∧ (153 * m + 2) / 5 ≤ n ∧
      n < (153 * (m + 1) + 2) / 5) ∨
    (fromMarch year n = ⟨year + 1, 1, n - 305⟩ ∧ 306 ≤ n ∧ n < 337) ∨
    (fromMarch year n = ⟨year + 1, 2, n - 336⟩ ∧ 337 ≤ n) := by
  have hmonth : (5 * n + 2) / 153 ≤ 9 ∨ (5 * n + 2) / 153 = 10 ∨ (5 * n + 2) / 153 = 11 := by omega
  rcases hmonth with hm | hm | hm
  · refine Or.inl ⟨(5 * n + 2) / 153, hm, ?_, by omega, by omega⟩
    have hten : (5 * n + 2) / 153 < 10 := by omega
    have hlate : ¬ (5 * n + 2) / 153 + 3 ≤ 2 := by omega
    unfold fromMarch
    dsimp only
    rw [if_pos hten, if_neg hlate, Int.add_zero]
  · refine Or.inr (Or.inl ⟨?_, by omega, by omega⟩)
    have hday : n - (153 * 10 + 2) / 5 + 1 = n - 305 := by omega
    unfold fromMarch
    rw [hm]
    exact congrArg (CivilDate.mk (year + 1) 1) hday
  · refine Or.inr (Or.inr ⟨?_, by omega⟩)
    have hday : n - (153 * 11 + 2) / 5 + 1 = n - 336 := by omega
    unfold fromMarch
    rw [hm]
    exact congrArg (CivilDate.mk (year + 1) 2) hday

theorem dayNumber_fromMarch (year : Int) {n : Nat} (h : n ≤ 365) :
    (fromMarch year n).dayNumber = daysBeforeYear (year + 1) + n - 719468 := by
  rcases fromMarch_cases year h with ⟨m, hm, heq, hle, -⟩ | ⟨heq, hle, -⟩ | ⟨heq, hle⟩
  · have hyear := daysBeforeYear_succ year
    have hbefore := daysBeforeMonth_add_three year (m := m) (by omega)
    rw [heq]
    unfold dayNumber
    dsimp only
    omega
  · rw [heq]
    show daysBeforeYear (year + 1) + ((0 : Nat) : Int) + ((n - 305 : Nat) : Int) - 719163 = _
    omega
  · rw [heq]
    show daysBeforeYear (year + 1) + ((31 : Nat) : Int) + ((n - 336 : Nat) : Int) - 719163 = _
    omega

theorem valid_fromMarch (year : Int) {n : Nat} (h : n < 365 + leapDays (year + 1)) :
    (fromMarch year n).Valid := by
  have hle := leapDays_le_one (year + 1)
  rcases fromMarch_cases year (n := n) (by omega) with
    ⟨m, hm, heq, hfirst, hlast⟩ | ⟨heq, hfirst, hlast⟩ | ⟨heq, hfirst⟩
  · have hbefore := daysBeforeMonth_add_three year (m := m) (by omega)
    have hnext := daysBeforeMonth_add_three year (m := m + 1) (by omega)
    have hlength := daysBeforeMonth_succ year (show 1 ≤ m + 3 by omega)
    rw [heq]
    refine ⟨by dsimp only; omega, by dsimp only; omega, by dsimp only; omega, ?_⟩
    dsimp only
    rw [show m + 1 + 3 = m + 3 + 1 from by omega] at hnext
    omega
  · rw [heq]
    refine ⟨Nat.le_refl 1, by dsimp only; omega, by dsimp only; omega, ?_⟩
    show n - 305 ≤ 31
    omega
  · rw [heq]
    refine ⟨by dsimp only; omega, by dsimp only; omega, by dsimp only; omega, ?_⟩
    show n - 336 ≤ 28 + leapDays (year + 1)
    omega

/-! ## Numbers and dates -/

/-- **The date of a number has that number.** -/
theorem dayNumber_ofDays (n : Int) : (ofDays n).dayNumber = n := by
  obtain ⟨year, d, hdate, hn, hd⟩ := exists_fromMarch n
  have hle := leapDays_le_one (year + 1)
  rw [hdate, dayNumber_fromMarch year (by omega), hn]

/-- **The date of a number is one of the calendar.** -/
theorem valid_ofDays (n : Int) : (ofDays n).Valid := by
  obtain ⟨year, d, hdate, -, hd⟩ := exists_fromMarch n
  rw [hdate]
  exact valid_fromMarch year hd

theorem daysBeforeMonth_mono (year : Int) {m m' : Nat} (h : m ≤ m') :
    daysBeforeMonth year m ≤ daysBeforeMonth year m' := by
  induction m', h using Nat.le_induction with
  | base => exact Nat.le_refl _
  | succ k hk ih =>
    rcases Nat.eq_zero_or_pos k with rfl | hpos
    · exact ih
    · rw [daysBeforeMonth_succ year hpos]
      omega

theorem daysBeforeYear_mono {y y' : Int} (h : y ≤ y') : daysBeforeYear y ≤ daysBeforeYear y' := by
  unfold daysBeforeYear
  omega

variable {d e : CivilDate}

/-- A date is not after the end of its month. -/
theorem Valid.dayNumber_le_month (h : d.Valid) :
    d.dayNumber ≤ daysBeforeYear d.year + daysBeforeMonth d.year (d.month + 1) - 719163 := by
  have hmonth := daysBeforeMonth_succ d.year h.one_le_month
  have hday := h.day_le
  unfold dayNumber
  omega

/-- A date is not after the end of its year. -/
theorem Valid.dayNumber_le_year (h : d.Valid) : d.dayNumber ≤ daysBeforeYear (d.year + 1) - 719163 := by
  have hle := h.dayNumber_le_month
  have hmonth := daysBeforeMonth_mono d.year (show d.month + 1 ≤ 13 from Nat.succ_le_succ h.month_le)
  rw [daysBeforeMonth_thirteen] at hmonth
  have hyear := daysBeforeYear_succ d.year
  omega

/-- **The first day of a year tells** which dates are in that year or later. -/
theorem Valid.le_year_iff (h : d.Valid) (year : Int) :
    year ≤ d.year ↔ daysBeforeYear year - 719162 ≤ d.dayNumber := by
  constructor
  · intro hle
    have hmono := daysBeforeYear_mono hle
    have hday := h.one_le_day
    unfold dayNumber
    omega
  · intro hle
    by_contra hlt
    have hmono := daysBeforeYear_mono (show d.year + 1 ≤ year by omega)
    have hend := h.dayNumber_le_year
    omega

theorem Valid.lt_of_year_lt (hd : d.Valid) (he : e.Valid) (h : d.year < e.year) :
    d.dayNumber < e.dayNumber := by
  have hend := hd.dayNumber_le_year
  have hstart := (he.le_year_iff (d.year + 1)).1 (by omega)
  omega

theorem Valid.lt_of_month_lt (hd : d.Valid) (he : e.Valid) (hyear : d.year = e.year)
    (h : d.month < e.month) : d.dayNumber < e.dayNumber := by
  have hle := hd.dayNumber_le_month
  have hmonth := daysBeforeMonth_mono d.year (show d.month + 1 ≤ e.month by omega)
  have hday := he.one_le_day
  have hdef : e.dayNumber =
      daysBeforeYear e.year + daysBeforeMonth e.year e.month + e.day - 719163 := rfl
  rw [← hyear] at hdef
  omega

/-- **A number has one date.** -/
theorem Valid.eq_of_dayNumber_eq (hd : d.Valid) (he : e.Valid) (h : d.dayNumber = e.dayNumber) :
    d = e := by
  have hyear : d.year = e.year := by
    rcases Int.lt_trichotomy d.year e.year with hlt | heq | hgt
    · exact absurd h (Int.ne_of_lt (hd.lt_of_year_lt he hlt))
    · exact heq
    · exact absurd h.symm (Int.ne_of_lt (he.lt_of_year_lt hd hgt))
  have hmonth : d.month = e.month := by
    rcases Nat.lt_trichotomy d.month e.month with hlt | heq | hgt
    · exact absurd h (Int.ne_of_lt (hd.lt_of_month_lt he hyear hlt))
    · exact heq
    · exact absurd h.symm (Int.ne_of_lt (he.lt_of_month_lt hd hyear.symm hgt))
  obtain ⟨y, m, n⟩ := d
  obtain ⟨y', m', n'⟩ := e
  subst hyear hmonth
  unfold dayNumber at h
  dsimp only at h
  rw [show n = n' from by omega]

/-- **The number of a date has that date.** -/
theorem ofDays_dayNumber (h : d.Valid) : ofDays d.dayNumber = d :=
  (valid_ofDays _).eq_of_dayNumber_eq h (dayNumber_ofDays _)

end CivilDate

/-! ## Times of the calendar -/

namespace CalendarTime

/-- Whether a time is one of the calendar, in the years 1 to 9999. -/
structure Valid (time : CalendarTime) : Prop where
  date : time.date.Valid
  one_le_year : 1 ≤ time.date.year
  year_le : time.date.year ≤ 9999
  hour : time.hour < 24
  minute : time.minute < 60
  second : time.second < 60
  microsecond : time.microsecond < 1000000

/-- The distance of a time from 1970-01-01 00:00:00, in microseconds. -/
def micros (time : CalendarTime) : Int :=
  time.date.dayNumber * 86400000000 +
    (((time.hour * 60 + time.minute) * 60 + time.second) * 1000000 + time.microsecond : Nat)

end CalendarTime

namespace Instant

/-- **An instant counts the microseconds of its calendar time.** -/
theorem micros_calendar (t : Instant) : t.calendar.micros = t.micros := by
  unfold CalendarTime.micros calendar
  dsimp only
  rw [CivilDate.dayNumber_ofDays]
  omega

/-- The calendar time of an instant is one of the calendar, in the years 1 to 9999. -/
theorem valid_calendar (t : Instant) : t.calendar.Valid := by
  have hfirst := t.first_le
  have hlast := t.le_last
  unfold firstMicro at hfirst
  unfold lastMicro at hlast
  have hdate := CivilDate.valid_ofDays (t.micros / 86400000000)
  have hnumber := CivilDate.dayNumber_ofDays (t.micros / 86400000000)
  refine ⟨hdate, ?_, ?_, ?_, ?_, ?_, ?_⟩
  · refine (hdate.le_year_iff 1).2 ?_
    rw [hnumber, CivilDate.daysBeforeYear_one]
    omega
  · by_contra hyear
    have hlate := (hdate.le_year_iff 10000).1 (Int.not_le.1 hyear)
    rw [hnumber, CivilDate.daysBeforeYear_tenThousand] at hlate
    omega
  · show (t.micros % 86400000000).toNat / 1000000 / 3600 < 24
    omega
  · show (t.micros % 86400000000).toNat / 1000000 / 60 % 60 < 60
    omega
  · show (t.micros % 86400000000).toNat / 1000000 % 60 < 60
    omega
  · show (t.micros % 86400000000).toNat % 1000000 < 1000000
    omega

end Instant

namespace CalendarTime

variable {time : CalendarTime}

/-- The time of day is less than a day. -/
theorem Valid.micros_bounds (h : time.Valid) :
    time.date.dayNumber * 86400000000 ≤ time.micros ∧
      time.micros < (time.date.dayNumber + 1) * 86400000000 := by
  obtain ⟨-, -, -, hhour, hminute, hsecond, hmicrosecond⟩ := h
  unfold micros
  omega

/-- A time of the calendar counts as an instant. -/
theorem Valid.exists_instant (h : time.Valid) : ∃ t : Instant, t.micros = time.micros := by
  obtain ⟨hlow, hhigh⟩ := h.micros_bounds
  have hfirst := (h.date.le_year_iff 1).1 h.one_le_year
  rw [CivilDate.daysBeforeYear_one] at hfirst
  have hlast : time.date.dayNumber < 2932897 := by
    by_contra hlate
    have hyear := (h.date.le_year_iff 10000).2 (by
      rw [CivilDate.daysBeforeYear_tenThousand]
      omega)
    have hle := h.year_le
    omega
  refine ⟨⟨time.micros, ?_, ?_⟩, rfl⟩
  · unfold firstMicro
    omega
  · unfold lastMicro
    omega

/-- **The times of the calendar** in the years 1 to 9999 are those of the instants. -/
theorem valid_iff_exists_calendar : time.Valid ↔ ∃ t : Instant, t.calendar = time := by
  constructor
  · intro h
    obtain ⟨t, ht⟩ := h.exists_instant
    have hdays : t.micros / 86400000000 = time.date.dayNumber := by
      obtain ⟨hlow, hhigh⟩ := h.micros_bounds
      omega
    obtain ⟨hdate, -, -, hhour, hminute, hsecond, hmicrosecond⟩ := h
    have hrest : (t.micros % 86400000000).toNat =
        ((time.hour * 60 + time.minute) * 60 + time.second) * 1000000 + time.microsecond := by
      unfold micros at ht
      omega
    refine ⟨t, ?_⟩
    unfold Instant.calendar
    dsimp only
    rw [hdays, hrest, CivilDate.ofDays_dayNumber hdate]
    obtain ⟨date, hour, minute, second, microsecond⟩ := time
    dsimp only at *
    congr 1 <;> omega
  · rintro ⟨t, rfl⟩
    exact t.valid_calendar

end CalendarTime

end WebhookRegistry
