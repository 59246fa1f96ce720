import Mathlib.Tactic.IntervalCases
import McpConsole.Time.Civil

/-!
# Dates and days

The days are numbered in the order of the calendar: every day has a date (`Date.toDays_ofDays`), whose
month and day of the month the calendar has (`Date.isValid_ofDays_iff`), and every date of the calendar
is the one of its day (`Date.ofDays_toDays`).

A day is looked at as a day of a year that begins in March (`IsDayOf`). The era and the year in it, the
month counted from March, and the day of the month say which day it is (`Date.ofMarch`).
-/

namespace McpConsole.Time

/-! ### Years -/

/-- The days of an era before a year of it. -/
def daysBefore (yearOfEra : Nat) : Nat :=
  365 * yearOfEra + yearOfEra / 4 - yearOfEra / 100

/-- The year of an era that a day of it is in. -/
def yearOfDay (dayOfEra : Nat) : Nat :=
  (dayOfEra - dayOfEra / 1460 + dayOfEra / 36524 - dayOfEra / 146096) / 365

/-- A year of an era that ends with a leap day. -/
def EndsInLeapDay (yearOfEra : Nat) : Prop :=
  (yearOfEra + 1) % 4 = 0 ∧ ((yearOfEra + 1) % 100 ≠ 0 ∨ yearOfEra = 399)

/-- A day of a year, counted from 0: it has 365 days, and one more with a leap day. -/
def IsDayOf (yearOfEra dayOfYear : Nat) : Prop :=
  dayOfYear < 365 ∨ dayOfYear = 365 ∧ EndsInLeapDay yearOfEra

/-- A year after whole centuries and whole groups of four years. -/
theorem daysBefore_parts (century : Nat) {four year : Nat} (hfour : four < 25) (hyear : year < 4) :
    daysBefore (100 * century + 4 * four + year) = 36524 * century + 1461 * four + 365 * year := by
  unfold daysBefore
  omega

theorem IsDayOf.le {yearOfEra dayOfYear : Nat} (h : IsDayOf yearOfEra dayOfYear) :
    dayOfYear ≤ 365 := by
  unfold IsDayOf at h
  omega

/-- Every day of an era is a day of one of its years. -/
theorem exists_isDayOf {dayOfEra : Nat} (h : dayOfEra < 146097) :
    ∃ yearOfEra dayOfYear, yearOfEra < 400 ∧ IsDayOf yearOfEra dayOfYear ∧
      dayOfEra = daysBefore yearOfEra + dayOfYear := by
  -- the last century has a day more than the others, and so has the last of four years
  obtain ⟨century, r, hcentury, hr, hdays⟩ :
      ∃ century r, century < 4 ∧ (r < 36524 ∨ r = 36524 ∧ century = 3) ∧
        dayOfEra = 36524 * century + r :=
    ⟨min (dayOfEra / 36524) 3, dayOfEra - 36524 * min (dayOfEra / 36524) 3, by omega, by omega,
      by omega⟩
  obtain ⟨four, s, hfour, hs, hr'⟩ : ∃ four s, four < 25 ∧ s < 1461 ∧ r = 1461 * four + s :=
    ⟨r / 1461, r % 1461, by omega, by omega, by omega⟩
  obtain ⟨year, d, hyear, hd⟩ : ∃ year d, year < 4 ∧ (d < 365 ∨ d = 365 ∧ year = 3) ∧
      s = 365 * year + d :=
    ⟨min (s / 365) 3, s - 365 * min (s / 365) 3, by omega, by omega, by omega⟩
  refine ⟨100 * century + 4 * four + year, d, by omega, ?_, ?_⟩
  · unfold IsDayOf EndsInLeapDay
    omega
  · rw [daysBefore_parts century hfour hyear]
    omega

theorem daysBefore_add_lt {yearOfEra dayOfYear : Nat} (hyear : yearOfEra < 400)
    (hday : IsDayOf yearOfEra dayOfYear) : daysBefore yearOfEra + dayOfYear < 146097 := by
  unfold IsDayOf EndsInLeapDay at hday
  unfold daysBefore
  omega

theorem yearOfDay_add {yearOfEra dayOfYear : Nat} (hyear : yearOfEra < 400)
    (hday : IsDayOf yearOfEra dayOfYear) :
    yearOfDay (daysBefore yearOfEra + dayOfYear) = yearOfEra := by
  obtain ⟨century, four, year, hcentury, hfour, hfew, rfl⟩ :
      ∃ century four year, century < 4 ∧ four < 25 ∧ year < 4 ∧
        yearOfEra = 100 * century + 4 * four + year :=
    ⟨yearOfEra / 100, yearOfEra % 100 / 4, yearOfEra % 4, by omega, by omega, by omega, by omega⟩
  have hlast : dayOfYear < 365 ∨ dayOfYear = 365 ∧ year = 3 ∧ (four < 24 ∨ century = 3) := by
    unfold IsDayOf EndsInLeapDay at hday
    omega
  obtain ⟨s, hs⟩ : ∃ s, s = 365 * year + dayOfYear := ⟨_, rfl⟩
  have hdays : daysBefore (100 * century + 4 * four + year) + dayOfYear =
      36524 * century + 1461 * four + s := by
    rw [daysBefore_parts century hfour hfew]
    omega
  rw [hdays]
  generalize hd : 36524 * century + 1461 * four + s = days
  -- the divisor of centuries counts one too many on the last day of the era
  have hcenturies : days / 146096 ≤ days / 36524 ∧ days / 36524 - days / 146096 = century := by
    rcases Nat.lt_or_ge days 146096 with hlt | hge
    · have hnone : days / 146096 = 0 := by omega
      have hall : days / 36524 = century := by omega
      omega
    · obtain rfl : days = 146096 := by omega
      omega
  -- the divisor of four years may count one too many late in the last of them
  obtain ⟨extra, hfours, hextra⟩ : ∃ extra, days / 1460 = 25 * century + four + extra ∧
      (extra = 0 ∧ s < 1460 ∨ extra = 1 ∧ 1095 < s) :=
    ⟨days / 1460 - (25 * century + four), by omega, by omega⟩
  have hsum : days - (25 * century + four + extra) + days / 36524 - days / 146096 =
      365 * (100 * century + 4 * four) + (s - extra) := by omega
  rw [yearOfDay, hfours, hsum]
  omega

/-! ### Months -/

/-- The days of a year before a month of it, counted from March. -/
def daysBeforeMonth (month : Nat) : Nat :=
  (153 * month + 2) / 5

/-- The month of a year that a day of it is in. -/
def monthOfDay (dayOfYear : Nat) : Nat :=
  (5 * dayOfYear + 2) / 153

/-- The day of its month that a day of a year is. -/
def dayOfMonth (dayOfYear : Nat) : Nat :=
  dayOfYear - daysBeforeMonth (monthOfDay dayOfYear) + 1

theorem monthOfDay_lt {dayOfYear : Nat} (h : dayOfYear ≤ 365) : monthOfDay dayOfYear < 12 := by
  unfold monthOfDay
  omega

theorem one_le_dayOfMonth (dayOfYear : Nat) : 1 ≤ dayOfMonth dayOfYear :=
  Nat.le_add_left 1 _

theorem daysBeforeMonth_add (dayOfYear : Nat) :
    daysBeforeMonth (monthOfDay dayOfYear) + dayOfMonth dayOfYear - 1 = dayOfYear := by
  unfold dayOfMonth daysBeforeMonth monthOfDay
  omega

/-! ### Dates -/

namespace Date

/-- The date of a day in a year that begins in March. -/
def ofMarch (era : Int) (yearOfEra month day : Nat) : Date :=
  let civil := if month < 10 then month + 3 else month - 9
  let year := era * 400 + yearOfEra
  ⟨if civil ≤ 2 then year + 1 else year, civil, day⟩

theorem ofDays_march (era : Int) {yearOfEra dayOfYear : Nat} (hyear : yearOfEra < 400)
    (hday : IsDayOf yearOfEra dayOfYear) :
    ofDays (era * 146097 + (daysBefore yearOfEra + dayOfYear : Nat) - 719468) =
      ofMarch era yearOfEra (monthOfDay dayOfYear) (dayOfMonth dayOfYear) := by
  have hlt := daysBefore_add_lt hyear hday
  have hyearOf := yearOfDay_add hyear hday
  generalize hdays : daysBefore yearOfEra + dayOfYear = days at hlt hyearOf
  have hera : (era * 146097 + (days : Int) - 719468 + 719468) / 146097 = era := by omega
  have hmod : ((era * 146097 + (days : Int) - 719468 + 719468) % 146097).toNat = days := by omega
  have hof : (days - days / 1460 + days / 36524 - days / 146096) / 365 = yearOfEra := hyearOf
  have hrest : days - (365 * yearOfEra + yearOfEra / 4 - yearOfEra / 100) = dayOfYear := by
    rw [← hdays]
    exact Nat.add_sub_cancel_left _ _
  unfold ofDays
  simp only [hera, hmod, hof, hrest]
  rfl

theorem toDays_ofMarch (era : Int) {yearOfEra month day : Nat} (hyear : yearOfEra < 400)
    (hmonth : month < 12) (hday : 1 ≤ day) :
    (ofMarch era yearOfEra month day).toDays =
      era * 146097 + (daysBefore yearOfEra + (daysBeforeMonth month + day - 1) : Nat) - 719468 := by
  have hcivil : (if month < 10 then month + 3 else month - 9) ≤ 2 ↔ ¬ month < 10 := by
    split <;> omega
  have hback : ((if month < 10 then month + 3 else month - 9) + 9) % 12 = month := by
    split <;> omega
  have hstart : (if (if month < 10 then month + 3 else month - 9) ≤ 2 then
      (if (if month < 10 then month + 3 else month - 9) ≤ 2 then era * 400 + (yearOfEra : Int) + 1
        else era * 400 + (yearOfEra : Int)) - 1
      else if (if month < 10 then month + 3 else month - 9) ≤ 2 then
        era * 400 + (yearOfEra : Int) + 1 else era * 400 + (yearOfEra : Int)) =
      era * 400 + yearOfEra := by
    split <;> omega
  have hera : (era * 400 + (yearOfEra : Int)) / 400 = era := by omega
  have hmod : (era * 400 + (yearOfEra : Int)) % 400 = yearOfEra := by omega
  unfold toDays ofMarch
  simp only [hback, hstart, hera, hmod]
  unfold daysBefore daysBeforeMonth
  omega

theorem year_ofMarch_bounds (era : Int) {yearOfEra : Nat} (hyear : yearOfEra < 400)
    (month day : Nat) : era * 400 ≤ (ofMarch era yearOfEra month day).year ∧
      (ofMarch era yearOfEra month day).year ≤ era * 400 + 400 := by
  unfold ofMarch
  dsimp only
  constructor <;> split <;> omega

/-- Which days a month has. -/
theorem isDayOf_month_iff (era : Int) {yearOfEra month day : Nat} (hyear : yearOfEra < 400)
    (hmonth : month < 12) (hday : 1 ≤ day) :
    day ≤ daysInMonth (ofMarch era yearOfEra month day).year (ofMarch era yearOfEra month day).month ↔
      IsDayOf yearOfEra (daysBeforeMonth month + day - 1) ∧
        monthOfDay (daysBeforeMonth month + day - 1) = month := by
  have hleap : isLeapYear (era * 400 + yearOfEra + 1) = true ↔ EndsInLeapDay yearOfEra := by
    simp only [isLeapYear, EndsInLeapDay, Bool.and_eq_true, Bool.or_eq_true, beq_iff_eq, bne_iff_ne]
    omega
  unfold ofMarch IsDayOf daysBeforeMonth monthOfDay daysInMonth
  by_cases hfebruary : month = 11
  · subst hfebruary
    by_cases h : EndsInLeapDay yearOfEra
    · simp [hleap.2 h, h]
      omega
    · simp [mt hleap.1 h, h]
      omega
  · interval_cases month <;> simp <;> omega

theorem isValid_iff (date : Date) : date.isValid = true ↔
    yearInRange date.year = true ∧ (1 ≤ date.month ∧ date.month ≤ 12) ∧
      1 ≤ date.day ∧ date.day ≤ daysInMonth date.year date.month := by
  simp only [isValid, Bool.and_eq_true, decide_eq_true_eq, and_assoc]

theorem exists_march (days : Int) : ∃ era yearOfEra dayOfYear, yearOfEra < 400 ∧
    IsDayOf yearOfEra dayOfYear ∧
      days = era * 146097 + (daysBefore yearOfEra + dayOfYear : Nat) - 719468 := by
  obtain ⟨yearOfEra, dayOfYear, hyear, hday, heq⟩ :=
    exists_isDayOf (show ((days + 719468) % 146097).toNat < 146097 by omega)
  exact ⟨(days + 719468) / 146097, yearOfEra, dayOfYear, hyear, hday, by omega⟩

theorem exists_ofMarch {date : Date} (h : 1 ≤ date.month ∧ date.month ≤ 12) :
    ∃ era yearOfEra month, yearOfEra < 400 ∧ month < 12 ∧
      date = ofMarch era yearOfEra month date.day := by
  obtain ⟨year, month, day⟩ := date
  dsimp only at h
  obtain ⟨march, hmarch⟩ : ∃ march, march = if month ≤ 2 then year - 1 else year := ⟨_, rfl⟩
  refine ⟨march / 400, (march % 400).toNat, (month + 9) % 12, by omega, by omega, ?_⟩
  have hback : (if (month + 9) % 12 < 10 then (month + 9) % 12 + 3 else (month + 9) % 12 - 9) =
      month := by
    split <;> omega
  have hyear : march / 400 * 400 + ((march % 400).toNat : Int) = march := by omega
  simp only [ofMarch, hback, hyear, mk.injEq, and_true]
  split <;> simp_all

/-- **Every day has a date**, from which its number is found again. -/
theorem toDays_ofDays (days : Int) : (ofDays days).toDays = days := by
  obtain ⟨era, yearOfEra, dayOfYear, hyear, hday, rfl⟩ := exists_march days
  rw [ofDays_march era hyear hday,
    toDays_ofMarch era hyear (monthOfDay_lt hday.le) (one_le_dayOfMonth dayOfYear),
    daysBeforeMonth_add]

/-- The date of a day is one of the calendar, as far as its year is one. -/
theorem isValid_ofDays_iff (days : Int) :
    (ofDays days).isValid = true ↔ yearInRange (ofDays days).year = true := by
  obtain ⟨era, yearOfEra, dayOfYear, hyear, hday, rfl⟩ := exists_march days
  have hmonth := monthOfDay_lt hday.le
  have hone := one_le_dayOfMonth dayOfYear
  rw [isValid_iff, ofDays_march era hyear hday]
  refine and_iff_left ⟨?_, hone, ?_⟩
  · unfold ofMarch
    dsimp only
    split <;> omega
  · refine (isDayOf_month_iff era hyear hmonth hone).2 ?_
    rw [daysBeforeMonth_add]
    exact ⟨hday, rfl⟩

/-- **Every date of the calendar** is the one of its day. -/
theorem ofDays_toDays {date : Date} (h : date.isValid = true) : ofDays date.toDays = date := by
  obtain ⟨-, hcivil, hday, hlast⟩ := (isValid_iff date).1 h
  obtain ⟨era, yearOfEra, month, hyear, hmonth, hdate⟩ := exists_ofMarch hcivil
  generalize date.day = day at hday hdate
  subst hdate
  obtain ⟨hdayOf, hmonthOf⟩ := (isDayOf_month_iff era hyear hmonth hday).1 hlast
  rw [toDays_ofMarch era hyear hmonth hday, ofDays_march era hyear hdayOf, dayOfMonth, hmonthOf]
  congr 1
  omega

end Date

end McpConsole.Time
