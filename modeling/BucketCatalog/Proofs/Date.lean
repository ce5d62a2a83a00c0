import BucketCatalog.Instant
import Mathlib.Tactic.IntervalCases

/-!
# Dates

The Gregorian calendar by its rules: which years have a leap day, how long the months are, and so
which day comes next.  Counting days goes through the calendar day by day: the date of the day after
is the next date, so that dates come in the order of their days.
-/

namespace BucketCatalog
namespace Date

/-- Every fourth year has a leap day, but of the full centuries only every fourth. -/
abbrev IsLeap (year : Int) : Prop :=
  4 ∣ year ∧ (100 ∣ year → 400 ∣ year)

/-- The number of days of a month. -/
def daysInMonth (year : Int) : Nat → Nat
  | 2 => if IsLeap year then 29 else 28
  | 4 | 6 | 9 | 11 => 30
  | _ => 31

/-- The date of the day after. -/
def next (date : Date) : Date :=
  if date.day < daysInMonth date.year date.month then { date with day := date.day + 1 }
  else if date.month < 12 then { date with month := date.month + 1, day := 1 }
  else { year := date.year + 1, month := 1, day := 1 }

/-- The year counts before the month, and the month before the day. -/
def IsBefore (first second : Date) : Prop :=
  first.year < second.year ∨
    first.year = second.year ∧
      (first.month < second.month ∨ first.month = second.month ∧ first.day < second.day)

theorem IsBefore.trans {first second third : Date} (left : first.IsBefore second)
    (right : second.IsBefore third) : first.IsBefore third := by
  simp only [IsBefore] at left right ⊢
  omega

theorem isBefore_next (date : Date) : date.IsBefore date.next := by
  unfold next IsBefore
  split_ifs <;> simp

/-! ## Years that begin in March

A leap day is the last day of such a year, so that all months but the last begin on the same day of
each year.
-/

/-- The days of a year before a month; months are counted from March, from zero. -/
def daysBefore (month : Nat) : Nat :=
  (153 * month + 2) / 5

/-- A day of a month counted from March, both counted from zero. -/
def ofMarchMonth (year : Int) (month day : Nat) : Date :=
  if month < 10 then { year := year, month := month + 3, day := day + 1 }
  else { year := year + 1, month := month - 9, day := day + 1 }

/-- A day of a year that begins in March, counted from zero. -/
def ofMarch (year : Int) (day : Nat) : Date :=
  let month := (5 * day + 2) / 153
  ofMarchMonth year month (day - daysBefore month)

variable {year : Int} {month day : Nat}

theorem day_ofMarchMonth (year : Int) (month day : Nat) :
    (ofMarchMonth year month day).day = day + 1 := by
  unfold ofMarchMonth
  split <;> rfl

theorem daysInMonth_ofMarchMonth (year : Int) (before_last : month < 11) (day : Nat) :
    daysInMonth (ofMarchMonth year month day).year (ofMarchMonth year month day).month =
      daysBefore (month + 1) - daysBefore month := by
  interval_cases month <;> rfl

theorem daysInMonth_ofMarchMonth_last (year : Int) (day : Nat) :
    daysInMonth (ofMarchMonth year 11 day).year (ofMarchMonth year 11 day).month =
      if IsLeap (year + 1) then 29 else 28 :=
  rfl

theorem next_ofMarchMonth_of_lt
    (inside : day + 1 < daysInMonth (ofMarchMonth year month day).year
      (ofMarchMonth year month day).month) :
    (ofMarchMonth year month day).next = ofMarchMonth year month (day + 1) := by
  rw [next, day_ofMarchMonth, if_pos inside]
  unfold ofMarchMonth
  split <;> rfl

theorem next_ofMarchMonth_of_last (before_last : month < 11)
    (last : day + 1 = daysBefore (month + 1) - daysBefore month) :
    (ofMarchMonth year month day).next = ofMarchMonth year (month + 1) 0 := by
  rw [next, day_ofMarchMonth, daysInMonth_ofMarchMonth year before_last, if_neg (by omega)]
  obtain early | rfl | rfl : month < 9 ∨ month = 9 ∨ month = 10 := by omega
  · have same_year : month < 10 ∧ month + 1 < 10 ∧ month + 3 < 12 := by omega
    simp [ofMarchMonth, same_year]
  · rfl
  · rfl

/-- The month of a day is the one that begins last before it. -/
theorem ofMarch_eq (year : Int) (from_first : daysBefore month ≤ day)
    (before_next : day < daysBefore (month + 1)) :
    ofMarch year day = ofMarchMonth year month (day - daysBefore month) := by
  have month_eq : (5 * day + 2) / 153 = month := by
    simp only [daysBefore] at from_first before_next
    omega
  rw [ofMarch, month_eq]

theorem exists_month {day : Nat} (inside : day ≤ 365) :
    ∃ month ≤ 11, daysBefore month ≤ day ∧ day < daysBefore (month + 1) := by
  simp only [daysBefore]
  exact ⟨(5 * day + 2) / 153, by omega, by omega, by omega⟩

/-- Within a year the next day is the one with the next number. -/
theorem next_ofMarch (inside : day < 364 ∨ day = 364 ∧ IsLeap (year + 1)) :
    (ofMarch year day).next = ofMarch year (day + 1) := by
  have inside_leap : day ≤ 365 := by omega
  obtain ⟨month, month_le, lower, upper⟩ := exists_month inside_leap
  have step : day - daysBefore month + 1 = day + 1 - daysBefore month := by omega
  rw [ofMarch_eq year lower upper]
  by_cases last : month = 11
  · subst last
    have start : daysBefore 11 = 337 := rfl
    have stop : daysBefore (11 + 1) = 367 := rfl
    have here : ofMarch year (day + 1) = ofMarchMonth year 11 (day + 1 - daysBefore 11) :=
      ofMarch_eq year (by omega) (by omega)
    rw [here, ← step]
    apply next_ofMarchMonth_of_lt
    rw [daysInMonth_ofMarchMonth_last]
    split_ifs <;> omega
  · have before_last : month < 11 := by omega
    by_cases ends : day + 1 = daysBefore (month + 1)
    · have later : day + 1 < daysBefore (month + 1 + 1) := by
        simp only [daysBefore] at ends ⊢
        omega
      rw [next_ofMarchMonth_of_last before_last (by omega), ofMarch_eq year ends.ge later, ends,
        Nat.sub_self]
    · have here : ofMarch year (day + 1) = ofMarchMonth year month (day + 1 - daysBefore month) :=
        ofMarch_eq year (by omega) (by omega)
      rw [here, ← step]
      apply next_ofMarchMonth_of_lt
      rw [daysInMonth_ofMarchMonth year before_last]
      omega

/-- The day after the last day of a year is the first of the next. -/
theorem next_ofMarch_of_last (last : day = if IsLeap (year + 1) then 365 else 364) :
    (ofMarch year day).next = ofMarch (year + 1) 0 := by
  have start : daysBefore 11 = 337 := rfl
  have stop : daysBefore (11 + 1) = 367 := rfl
  have bounds : 364 ≤ day ∧ day ≤ 365 := by
    split_ifs at last <;> omega
  have here : ofMarch year day = ofMarchMonth year 11 (day - daysBefore 11) :=
    ofMarch_eq year (by omega) (by omega)
  rw [here, next, day_ofMarchMonth, daysInMonth_ofMarchMonth_last, if_neg]
  · rfl
  · split_ifs at last ⊢ <;> omega

/-! ## Counting days -/

/-- A day by the year that it lies in, counted from March. -/
structure Counted where
  /-- The period of 400 years. -/
  era : Int
  /-- The century of the period. -/
  century : Nat
  /-- The four years of the century. -/
  olympiad : Nat
  /-- The year of the four. -/
  year : Nat
  /-- The day of the year. -/
  day : Nat
  /-- A period has four centuries. -/
  century_lt : century < 4
  /-- A century has 25 times four years. -/
  olympiad_lt : olympiad < 25
  /-- Years are counted from zero. -/
  year_lt : year < 4
  /-- Days are counted from zero. -/
  day_le : day ≤ 365
  /-- The 366th day is the leap day of the last of four years; of the last four years of a century
  it is only that of the last century. -/
  leap : day = 365 → year = 3 ∧ (olympiad = 24 → century = 3)

namespace Counted

/-- The number of the day in its period. -/
def dayOfEra (counted : Counted) : Nat :=
  36524 * counted.century + 1461 * counted.olympiad + 365 * counted.year + counted.day

/-- The number of the day, counted from the beginning of 1970. -/
def days (counted : Counted) : Int :=
  146097 * counted.era + counted.dayOfEra - 719468

/-- The number of the year in its period. -/
def yearOfEra (counted : Counted) : Nat :=
  100 * counted.century + 4 * counted.olympiad + counted.year

/-- The year in which the year begins. -/
def fullYear (counted : Counted) : Int :=
  400 * counted.era + counted.yearOfEra

theorem dayOfEra_lt (counted : Counted) : counted.dayOfEra < 146097 := by
  obtain ⟨era, century, olympiad, year, day, _, _, _, _, _⟩ := counted
  simp only [dayOfEra]
  omega

theorem yearOfEra_eq (counted : Counted) :
    (counted.dayOfEra - counted.dayOfEra / 1460 + counted.dayOfEra / 36524
      - counted.dayOfEra / 146096) / 365 = counted.yearOfEra := by
  obtain ⟨era, century, olympiad, year, day, _, _, _, _, _⟩ := counted
  simp only [dayOfEra, yearOfEra]
  generalize whole : 36524 * century + 1461 * olympiad + 365 * year + day = dayOfEra
  by_cases last : dayOfEra = 146096
  · have fields : century = 3 ∧ olympiad = 24 ∧ year = 3 := by omega
    omega
  · have eras : dayOfEra / 146096 = 0 := by omega
    have centuries : dayOfEra / 36524 = century := by omega
    -- a leap day may be counted one year too late, which the day of the year makes up for
    have olympiads : dayOfEra / 1460 = 25 * century + olympiad ∧ day < 365 ∨
        dayOfEra / 1460 = 25 * century + olympiad + 1 ∧ 0 < day := by
      omega
    omega

theorem dayOfYear_eq (counted : Counted) :
    counted.dayOfEra - (365 * counted.yearOfEra + counted.yearOfEra / 4 - counted.yearOfEra / 100) =
      counted.day := by
  obtain ⟨era, century, olympiad, year, day, _, _, _, _, _⟩ := counted
  simp only [dayOfEra, yearOfEra]
  omega

theorem exists_days (days : Int) : ∃ counted : Counted, counted.days = days := by
  obtain ⟨era, dayOfEra, inside, rfl⟩ :
      ∃ (era : Int) (dayOfEra : Nat), dayOfEra < 146097 ∧
        146097 * era + dayOfEra - 719468 = days :=
    ⟨(days + 719468) / 146097, ((days + 719468) % 146097).toNat, by omega, by omega⟩
  obtain ⟨century, century_eq⟩ : ∃ century, century = min 3 (dayOfEra / 36524) := ⟨_, rfl⟩
  obtain ⟨olympiad, olympiad_eq⟩ : ∃ olympiad, olympiad = (dayOfEra - 36524 * century) / 1461 :=
    ⟨_, rfl⟩
  obtain ⟨year, year_eq⟩ :
      ∃ year, year = min 3 ((dayOfEra - 36524 * century - 1461 * olympiad) / 365) := ⟨_, rfl⟩
  refine ⟨{
    era := era, century := century, olympiad := olympiad, year := year
    day := dayOfEra - 36524 * century - 1461 * olympiad - 365 * year
    century_lt := by omega
    olympiad_lt := by omega
    year_lt := by omega
    day_le := by omega
    leap := by omega }, ?_⟩
  simp only [Counted.days, Counted.dayOfEra]
  omega

theorem isLeap_iff (counted : Counted) :
    IsLeap (counted.fullYear + 1) ↔
      counted.year = 3 ∧ (counted.olympiad = 24 → counted.century = 3) := by
  obtain ⟨era, century, olympiad, year, day, _, _, _, _, _⟩ := counted
  simp only [IsLeap, fullYear, yearOfEra]
  omega

theorem exists_next_day (counted : Counted)
    (inside : counted.day < 364 ∨ counted.day = 364 ∧ IsLeap (counted.fullYear + 1)) :
    ∃ later : Counted, later.days = counted.days + 1 ∧ later.fullYear = counted.fullYear ∧
      later.day = counted.day + 1 := by
  rw [isLeap_iff] at inside
  obtain ⟨era, century, olympiad, year, day, century_lt, olympiad_lt, year_lt, _, _⟩ := counted
  dsimp only at inside
  refine ⟨⟨era, century, olympiad, year, day + 1, century_lt, olympiad_lt, year_lt, by omega,
    by omega⟩, ?_, rfl, rfl⟩
  simp only [days, dayOfEra]
  omega

/-- The first day of the year after. -/
theorem exists_next_year (counted : Counted)
    (last : counted.day = if IsLeap (counted.fullYear + 1) then 365 else 364) :
    ∃ later : Counted, later.days = counted.days + 1 ∧ later.fullYear = counted.fullYear + 1 ∧
      later.day = 0 := by
  simp only [isLeap_iff] at last
  obtain ⟨era, century, olympiad, year, day, _, _, _, _, _⟩ := counted
  dsimp only at last
  -- the year after is in the same four, or begins the next four, century or period
  obtain ⟨era', century', olympiad', year', century_lt, olympiad_lt, year_lt, turned⟩ :
      ∃ (era' : Int) (century' olympiad' year' : Nat),
        century' < 4 ∧ olympiad' < 25 ∧ year' < 4 ∧
          (year < 3 ∧ era' = era ∧ century' = century ∧ olympiad' = olympiad ∧ year' = year + 1 ∨
            year = 3 ∧ olympiad < 24 ∧ era' = era ∧ century' = century ∧
              olympiad' = olympiad + 1 ∧ year' = 0 ∨
            year = 3 ∧ olympiad = 24 ∧ century < 3 ∧ era' = era ∧ century' = century + 1 ∧
              olympiad' = 0 ∧ year' = 0 ∨
            year = 3 ∧ olympiad = 24 ∧ century = 3 ∧ era' = era + 1 ∧ century' = 0 ∧
              olympiad' = 0 ∧ year' = 0) := by
    by_cases in_four : year < 3
    · exact ⟨era, century, olympiad, year + 1, by omega⟩
    by_cases in_century : olympiad < 24
    · exact ⟨era, century, olympiad + 1, 0, by omega⟩
    by_cases in_era : century < 3
    · exact ⟨era, century + 1, 0, 0, by omega⟩
    · exact ⟨era + 1, 0, 0, 0, by omega⟩
  refine ⟨⟨era', century', olympiad', year', 0, century_lt, olympiad_lt, year_lt, by omega,
    by omega⟩, ?_, ?_, rfl⟩
  · simp only [days, dayOfEra]
    split_ifs at last <;> omega
  · simp only [fullYear, yearOfEra]
    omega

end Counted

theorem ofDays_days (counted : Counted) :
    ofDays counted.days = ofMarch counted.fullYear counted.day := by
  have inside := counted.dayOfEra_lt
  have shifted : counted.days + 719468 = 146097 * counted.era + counted.dayOfEra := by
    simp [Counted.days]
  have era : (counted.days + 719468).fdiv 146097 = counted.era := by
    rw [shifted, Int.fdiv_eq_ediv_of_nonneg _ (by decide)]
    omega
  have dayOfEra : (counted.days + 719468).fmod 146097 = counted.dayOfEra := by
    rw [shifted, Int.fmod_eq_emod_of_nonneg _ (by decide)]
    omega
  simp only [ofDays, era, dayOfEra, Int.toNat_natCast, counted.yearOfEra_eq, counted.dayOfYear_eq]
  rw [ofMarch, ofMarchMonth, Counted.fullYear, Int.mul_comm 400 counted.era]
  have upper : (5 * counted.day + 2) / 153 ≤ 11 := by
    have := counted.day_le
    omega
  split_ifs <;> simp [daysBefore] <;> omega

/-- Counting days goes through the calendar. -/
theorem ofDays_succ (days : Int) : ofDays (days + 1) = (ofDays days).next := by
  obtain ⟨counted, rfl⟩ := Counted.exists_days days
  by_cases inside : counted.day < 364 ∨ counted.day = 364 ∧ IsLeap (counted.fullYear + 1)
  · obtain ⟨later, days_eq, year_eq, day_eq⟩ := counted.exists_next_day inside
    rw [← days_eq, ofDays_days, ofDays_days, year_eq, day_eq, next_ofMarch inside]
  · have last : counted.day = if IsLeap (counted.fullYear + 1) then 365 else 364 := by
      have day_le := counted.day_le
      have leap := counted.leap
      rw [← counted.isLeap_iff] at leap
      split_ifs <;> omega
    obtain ⟨later, days_eq, year_eq, day_eq⟩ := counted.exists_next_year last
    rw [← days_eq, ofDays_days, ofDays_days, year_eq, day_eq, next_ofMarch_of_last last]

/-- The days are counted from the beginning of 1970. -/
example : ofDays 0 = ⟨1970, 1, 1⟩ :=
  rfl

/-- Dates come in the order of their days. -/
theorem isBefore_ofDays {first second : Int} (earlier : first < second) :
    (ofDays first).IsBefore (ofDays second) := by
  induction second, earlier using Int.leInduction with
  | base =>
      rw [ofDays_succ]
      exact isBefore_next _
  | succ days _ ih =>
      rw [ofDays_succ]
      exact ih.trans (isBefore_next _)

theorem ofDays_bounds (days : Int) : (ofDays days).month ≤ 12 ∧ (ofDays days).day ≤ 31 := by
  obtain ⟨counted, rfl⟩ := Counted.exists_days days
  obtain ⟨month, month_le, lower, upper⟩ := exists_month counted.day_le
  rw [ofDays_days, ofMarch_eq _ lower upper, day_ofMarchMonth]
  constructor
  · unfold ofMarchMonth
    split_ifs <;> simp only <;> omega
  · simp only [daysBefore] at lower upper ⊢
    omega

end Date
end BucketCatalog
