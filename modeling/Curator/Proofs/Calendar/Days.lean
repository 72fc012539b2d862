import Curator.Calendar.Moment
import Mathlib.Algebra.Order.Group.Nat
import Mathlib.Order.Monotone.Basic
import Mathlib.Tactic.IntervalCases
/-!
# Days of the calendar

Dates and their day numbers.  Years are counted from March, so that a day number is the days before its
counted year, the days before its counted month, and the day.  Every date of the calendar has a day
number of its own, every day number of the calendar is that of a date, and numbers of days are in the
order of the dates.
-/

set_option autoImplicit false

namespace Curator.Calendar

/-! ## Years -/

/-- The days of the counted years before a year. -/
def daysBeforeYear (year : Nat) : Nat := 365 * year + year / 4 - year / 100 + year / 400

def yearLength (year : Nat) : Nat := if isLeapYear year then 366 else 365

theorem yearLength_bounds (year : Nat) : 365 ≤ yearLength year ∧ yearLength year ≤ 366 := by
  unfold yearLength
  split <;> omega

theorem isLeapYear_iff (year : Nat) :
    isLeapYear year = true ↔ 4 ∣ year ∧ (¬ 100 ∣ year ∨ 400 ∣ year) := by
  simp [isLeapYear, Nat.dvd_iff_mod_eq_zero]

/-- A counted year has the leap day of the year it ends in. -/
theorem daysBeforeYear_succ (year : Nat) :
    daysBeforeYear (year + 1) = daysBeforeYear year + yearLength (year + 1) := by
  have hundreds : 400 ∣ year + 1 → 100 ∣ year + 1 := Nat.dvd_trans (by decide)
  have fours : 100 ∣ year + 1 → 4 ∣ year + 1 := Nat.dvd_trans (by decide)
  unfold daysBeforeYear yearLength
  simp only [isLeapYear_iff, Nat.succ_div]
  by_cases four : 4 ∣ year + 1
  · by_cases hundred : 100 ∣ year + 1
    · by_cases cycle : 400 ∣ year + 1
      · simp only [four, hundred, cycle, if_true, not_true, true_and, false_or]
        omega
      · simp only [four, hundred, cycle, if_true, if_false, not_true, true_and, or_self]
        omega
    · have cycle : ¬ 400 ∣ year + 1 := fun divides => hundred (hundreds divides)
      simp only [four, hundred, cycle, if_true, if_false, not_false_eq_true, true_and, true_or]
      omega
  · have hundred : ¬ 100 ∣ year + 1 := fun divides => four (fours divides)
    have cycle : ¬ 400 ∣ year + 1 := fun divides => hundred (hundreds divides)
    simp only [four, hundred, cycle, if_false, false_and]
    omega

theorem daysBeforeYear_strictMono : StrictMono daysBeforeYear := by
  apply strictMono_nat_of_lt_succ
  intro year
  have length := yearLength_bounds (year + 1)
  rw [daysBeforeYear_succ]
  omega

theorem daysBeforeYear_cycle (cycle year : Nat) :
    daysBeforeYear (year + cycle * 400) = 146097 * cycle + daysBeforeYear year := by
  have fours : (year + cycle * 400) / 4 = year / 4 + 100 * cycle := by omega
  have hundreds : (year + cycle * 400) / 100 = year / 100 + 4 * cycle := by omega
  have cycles : (year + cycle * 400) / 400 = year / 400 + cycle := by omega
  unfold daysBeforeYear
  rw [fours, hundreds, cycles]
  omega

/-- Every day is in a counted year. -/
theorem exists_countedYear (n : Nat) :
    ∃ year, daysBeforeYear year ≤ n ∧ n < daysBeforeYear (year + 1) := by
  induction n with
  | zero => exact ⟨0, Nat.le_refl 0, by decide⟩
  | succ n ih =>
    obtain ⟨year, reached, before⟩ := ih
    by_cases within : n + 1 < daysBeforeYear (year + 1)
    · exact ⟨year, by omega, within⟩
    · have more : daysBeforeYear (year + 1) < daysBeforeYear (year + 1 + 1) :=
        daysBeforeYear_strictMono (Nat.lt_succ_self _)
      exact ⟨year + 1, by omega, by omega⟩

/-! ### The year of a day of a cycle -/

/-- The day of a cycle of 400 years, with the leap days before it taken out. -/
def evenedDay (day : Nat) : Nat := day + day / 36524 - day / 1460 - day / 146096

theorem evenedDay_mono {day later : Nat} (le : day ≤ later) (within : later < 146097) :
    evenedDay day ≤ evenedDay later := by
  induction later, le using Nat.le_induction with
  | base => exact Nat.le_refl _
  | succ later _ ih =>
    have before := ih (by omega)
    have step : evenedDay later ≤ evenedDay (later + 1) := by
      unfold evenedDay
      omega
    exact Nat.le_trans before step

/-- The first and the last day of each year of a cycle. -/
theorem evenedDay_ends : ∀ year < 400, 365 * year ≤ evenedDay (daysBeforeYear year) ∧
    evenedDay (daysBeforeYear (year + 1) - 1) < 365 * (year + 1) := by
  decide +kernel

/-- Without leap days all years have the same length, and a day is in the year its number says. -/
theorem evenedDay_div {year day : Nat} (within : year < 400) (reached : daysBeforeYear year ≤ day)
    (before : day < daysBeforeYear (year + 1)) : evenedDay day / 365 = year := by
  obtain ⟨first, last⟩ := evenedDay_ends year within
  have whole : daysBeforeYear (year + 1) ≤ 146097 := daysBeforeYear_strictMono.monotone within
  have low := evenedDay_mono reached (by omega)
  have high := evenedDay_mono (show day ≤ daysBeforeYear (year + 1) - 1 by omega) (by omega)
  omega

/-! ## Months -/

/-- The days of a counted year before one of its months, of which March is the first. -/
def daysBeforeMonth (month : Nat) : Nat := (153 * month + 2) / 5

namespace Date

def countedYear (d : Date) : Nat := if d.month ≤ 2 then d.year - 1 else d.year

def countedMonth (d : Date) : Nat := if d.month ≤ 2 then d.month + 9 else d.month - 3

/-- The days of its counted year that come before a date. -/
def countedDay (d : Date) : Nat := daysBeforeMonth d.countedMonth + d.day - 1

/-- The date of a day of a counted month. -/
def ofCounted (year month day : Nat) : Date :=
  if month < 10 then ⟨year, month + 3, day⟩ else ⟨year + 1, month - 9, day⟩

variable {d e : Date}

theorem ofCounted_counted (valid : d.IsValid) :
    ofCounted d.countedYear d.countedMonth d.day = d := by
  obtain ⟨year, month, day⟩ := d
  obtain ⟨some_year, _, some_month, last_month, _, _⟩ := valid
  simp only [leastYear] at some_year some_month last_month
  unfold ofCounted countedYear countedMonth
  by_cases early : month ≤ 2
  · have late : ¬ month + 9 < 10 := by omega
    simp only [if_pos early, if_neg late]
    congr 1
    omega
  · have soon : month - 3 < 10 := by omega
    simp only [if_neg early, if_pos soon]
    congr 1
    omega

theorem dayNumber_eq (valid : d.IsValid) :
    d.dayNumber = daysBeforeYear d.countedYear + d.countedDay := by
  obtain ⟨_, _, _, _, some_day, _⟩ := valid
  unfold dayNumber countedDay
  simp only [daysBeforeYear, countedYear, countedMonth, daysBeforeMonth]
  omega

/-- A date lies in its counted month; how long the last of them is, the year says. -/
theorem countedDay_bounds (valid : d.IsValid) : d.countedMonth < 12 ∧
    daysBeforeMonth d.countedMonth ≤ d.countedDay ∧
    d.countedDay < if d.countedMonth = 11 then yearLength (d.countedYear + 1)
      else daysBeforeMonth (d.countedMonth + 1) := by
  obtain ⟨year, month, day⟩ := d
  obtain ⟨some_year, _, some_month, last_month, some_day, last_day⟩ := valid
  simp only [leastYear] at some_year some_month last_month some_day last_day
  have year_eq : year - 1 + 1 = year := by omega
  simp only [countedMonth, countedDay, daysBeforeMonth, countedYear]
  by_cases february : month = 2
  · subst february
    simp only [daysInMonth, if_true] at last_day
    simp only [Nat.le_refl, if_true, year_eq, yearLength]
    by_cases leap : isLeapYear year = true
    · simp only [leap, if_true] at last_day ⊢
      omega
    · simp only [leap, if_false, Bool.false_eq_true] at last_day ⊢
      omega
  · interval_cases month
    all_goals
      simp [daysInMonth] at february last_day ⊢
      try omega

/-- A date lies in its counted year. -/
theorem countedDay_lt (valid : d.IsValid) : d.countedDay < yearLength (d.countedYear + 1) := by
  obtain ⟨some_month, _, within⟩ := countedDay_bounds valid
  have length := yearLength_bounds (d.countedYear + 1)
  by_cases last : d.countedMonth = 11
  · rwa [if_pos last] at within
  · rw [if_neg last] at within
    unfold daysBeforeMonth at within
    omega

theorem countedMonth_eq (valid : d.IsValid) : (5 * d.countedDay + 2) / 153 = d.countedMonth := by
  obtain ⟨some_month, reached, within⟩ := countedDay_bounds valid
  have length := yearLength_bounds (d.countedYear + 1)
  unfold daysBeforeMonth at reached within
  by_cases last : d.countedMonth = 11
  · rw [if_pos last] at within
    omega
  · rw [if_neg last] at within
    omega

/-! ## Dates of day numbers -/

/-- The date of a day of a counted year. -/
theorem ofDayNumber_eq {n year : Nat} (reached : daysBeforeYear year ≤ n)
    (before : n < daysBeforeYear (year + 1)) : ofDayNumber n =
      let day := n - daysBeforeYear year
      let month := (5 * day + 2) / 153
      ofCounted year month (day - daysBeforeMonth month + 1) := by
  -- the number is that of a day of a cycle of 400 years
  have parts : year % 400 + year / 400 * 400 = year := Nat.mod_add_div' year 400
  have within : year % 400 < 400 := Nat.mod_lt year (by decide)
  generalize year % 400 = rest at parts within
  generalize year / 400 = cycle at parts
  subst parts
  rw [daysBeforeYear_cycle] at reached
  rw [Nat.add_right_comm, daysBeforeYear_cycle] at before
  have whole : daysBeforeYear (rest + 1) ≤ 146097 := daysBeforeYear_strictMono.monotone within
  have era : n / 146097 = cycle := by omega
  have day : n % 146097 = n - 146097 * cycle := by omega
  have year : evenedDay (n % 146097) / 365 = rest := by
    apply evenedDay_div within
    · omega
    · omega
  have some_days : daysBeforeYear rest = 365 * rest + rest / 4 - rest / 100 := by
    simp only [daysBeforeYear, Nat.div_eq_of_lt within]
    omega
  have dayOfYear : n % 146097 + rest / 100 - 365 * rest - rest / 4 =
      n - daysBeforeYear (rest + cycle * 400) := by
    rw [daysBeforeYear_cycle]
    omega
  unfold evenedDay at year
  unfold ofDayNumber ofCounted daysBeforeMonth
  simp only [era, year, dayOfYear]

/-- A date is the one that its day number stands for. -/
theorem ofDayNumber_dayNumber (valid : d.IsValid) : ofDayNumber d.dayNumber = d := by
  have number := dayNumber_eq valid
  have within := countedDay_lt valid
  have reached : daysBeforeYear d.countedYear ≤ d.dayNumber := by omega
  have before : d.dayNumber < daysBeforeYear (d.countedYear + 1) := by
    rw [daysBeforeYear_succ]
    omega
  have day : d.dayNumber - daysBeforeYear d.countedYear = d.countedDay := by omega
  have some_day : d.countedDay - daysBeforeMonth d.countedMonth + 1 = d.day := by
    obtain ⟨_, _, _, _, first, _⟩ := valid
    unfold countedDay
    omega
  rw [ofDayNumber_eq reached before]
  simp only [day, countedMonth_eq valid, some_day]
  exact ofCounted_counted valid

/-- The length of a counted month. -/
theorem daysInMonth_ofCounted (year day : Nat) {month : Nat} (some_month : month < 12) :
    daysInMonth (ofCounted year month day).year (ofCounted year month day).month =
      (if month = 11 then yearLength (year + 1) else daysBeforeMonth (month + 1)) -
        daysBeforeMonth month := by
  by_cases february : month = 11
  · subst february
    unfold yearLength
    by_cases leap : isLeapYear (year + 1) = true
    · simp [ofCounted, daysInMonth, daysBeforeMonth, leap]
    · simp [ofCounted, daysInMonth, daysBeforeMonth, leap]
  · interval_cases month
    all_goals simp [ofCounted, daysInMonth, daysBeforeMonth] at february ⊢

theorem ofCounted_valid {year month day : Nat} (some_month : month < 12)
    (first : year = 0 → 10 ≤ month) (last : year < 9999 ∨ year = 9999 ∧ month < 10)
    (some_day : 1 ≤ day) (within : daysBeforeMonth month + day ≤
      if month = 11 then yearLength (year + 1) else daysBeforeMonth (month + 1)) :
    (ofCounted year month day).IsValid := by
  have length := daysInMonth_ofCounted year day some_month
  have last_day : day ≤ daysInMonth (ofCounted year month day).year
      (ofCounted year month day).month := by omega
  by_cases early : month < 10
  · simp only [ofCounted, if_pos early] at last_day ⊢
    constructor
    all_goals simp only [leastYear, greatestYear]
    · omega
    · refine ⟨?_, ?_, ?_, some_day, last_day⟩
      all_goals omega
  · simp only [ofCounted, if_neg early] at last_day ⊢
    constructor
    all_goals simp only [leastYear, greatestYear]
    · omega
    · refine ⟨?_, ?_, ?_, some_day, last_day⟩
      all_goals omega

theorem dayNumber_ofCounted {year month day : Nat} (some_month : month < 12)
    (valid : (ofCounted year month day).IsValid) :
    (ofCounted year month day).dayNumber =
      daysBeforeYear year + (daysBeforeMonth month + day - 1) := by
  rw [dayNumber_eq valid]
  unfold countedDay countedYear countedMonth ofCounted
  by_cases early : month < 10
  · simp [early]
  · have soon : month - 9 ≤ 2 := by omega
    have month_eq : month - 9 + 9 = month := by omega
    simp only [if_neg early, if_pos soon, month_eq, Nat.add_sub_cancel]

/-- A day of a counted year is in the month its number says. -/
theorem dayOfYear_bounds {year day : Nat} (inside : day < yearLength (year + 1)) :
    (5 * day + 2) / 153 < 12 ∧ daysBeforeMonth ((5 * day + 2) / 153) ≤ day ∧
      day < if (5 * day + 2) / 153 = 11 then yearLength (year + 1)
        else daysBeforeMonth ((5 * day + 2) / 153 + 1) := by
  have length := yearLength_bounds (year + 1)
  unfold daysBeforeMonth
  refine ⟨by omega, by omega, ?_⟩
  by_cases last : (5 * day + 2) / 153 = 11
  · rwa [if_pos last]
  · rw [if_neg last]
    omega

/-- A day number of the calendar stands for a date, whose day number it is. -/
theorem ofDayNumber_valid {n : Nat} (first : firstDay ≤ n) (last : n < endDay) :
    (ofDayNumber n).IsValid ∧ (ofDayNumber n).dayNumber = n := by
  obtain ⟨year, reached, before⟩ := exists_countedYear n
  rw [ofDayNumber_eq reached before]
  rw [daysBeforeYear_succ] at before
  unfold firstDay at first
  unfold endDay at last
  have nothing : daysBeforeYear 0 = 0 := rfl
  have nines : daysBeforeYear 9999 = 3652059 := rfl
  have last_year : year ≤ 9999 := by
    by_contra later
    have beyond := daysBeforeYear_strictMono.monotone (show 10000 ≤ year by omega)
    have ten_thousand : daysBeforeYear 10000 = 3652425 := rfl
    omega
  have number : n = daysBeforeYear year + (n - daysBeforeYear year) := by omega
  obtain ⟨some_month, day_reached, day_before⟩ :=
    dayOfYear_bounds (show n - daysBeforeYear year < yearLength (year + 1) by omega)
  have valid : (ofCounted year ((5 * (n - daysBeforeYear year) + 2) / 153)
      (n - daysBeforeYear year - daysBeforeMonth ((5 * (n - daysBeforeYear year) + 2) / 153) +
        1)).IsValid := by
    apply ofCounted_valid some_month
    · rintro rfl
      omega
    · by_cases nine : year = 9999
      · subst nine
        omega
      · omega
    · omega
    · omega
  refine ⟨valid, ?_⟩
  rw [dayNumber_ofCounted some_month valid]
  omega

/-! ## The order of dates -/

/-- The order of the calendar: by year, then month, then day. -/
def Before (d e : Date) : Prop :=
  d.year < e.year ∨ d.year = e.year ∧ (d.month < e.month ∨ d.month = e.month ∧ d.day < e.day)

/-- A year of the calendar begins 306 days into a counted one. -/
theorem dayNumber_bounds (valid : d.IsValid) :
    daysBeforeYear (d.year - 1) + 306 ≤ d.dayNumber ∧
      d.dayNumber < daysBeforeYear d.year + 306 := by
  obtain ⟨_, reached, within⟩ := countedDay_bounds valid
  have inside := countedDay_lt valid
  have succ := daysBeforeYear_succ (d.year - 1)
  have length := yearLength_bounds (d.year - 1 + 1)
  have some_year : 1 ≤ d.year := valid.1
  have some_month := valid.2.2.1
  have last_month := valid.2.2.2.1
  have year_eq : d.year - 1 + 1 = d.year := by omega
  rw [year_eq] at succ length
  rw [dayNumber_eq valid]
  clear valid
  unfold countedYear countedMonth daysBeforeMonth at *
  by_cases early : d.month ≤ 2
  · simp only [if_pos early, year_eq] at *
    omega
  · have late : ¬ d.month - 3 = 11 := by omega
    simp only [if_neg early, if_neg late] at *
    omega

theorem countedDay_lt_of_month (valid : d.IsValid) (valid_later : e.IsValid)
    (earlier : d.countedMonth < e.countedMonth) : d.countedDay < e.countedDay := by
  obtain ⟨_, _, within⟩ := countedDay_bounds valid
  obtain ⟨last_month, reached, _⟩ := countedDay_bounds valid_later
  have not_last : ¬ d.countedMonth = 11 := by omega
  rw [if_neg not_last] at within
  unfold daysBeforeMonth at within reached
  omega

theorem dayNumber_lt_of_month (valid : d.IsValid) (valid_later : e.IsValid)
    (same : d.year = e.year) (earlier : d.month < e.month) : d.dayNumber < e.dayNumber := by
  have inside := countedDay_lt valid
  have months := countedDay_lt_of_month valid valid_later
  have succ := daysBeforeYear_succ d.countedYear
  have some_month := valid.2.2.1
  rw [dayNumber_eq valid, dayNumber_eq valid_later]
  unfold countedYear countedMonth at *
  by_cases early : d.month ≤ 2
  · by_cases late : e.month ≤ 2
    · rw [if_pos early, if_pos late, same]
      rw [if_pos early, if_pos late] at months
      omega
    · have some_year : d.year - 1 + 1 = e.year := by
        have first := valid.1
        simp only [leastYear] at first
        omega
      simp only [if_pos early, if_neg late, some_year] at *
      omega
  · have late : ¬ e.month ≤ 2 := by omega
    rw [if_neg early, if_neg late, same]
    rw [if_neg early, if_neg late] at months
    omega

theorem dayNumber_lt_of_before (valid : d.IsValid) (valid_later : e.IsValid)
    (earlier : d.Before e) : d.dayNumber < e.dayNumber := by
  rcases earlier with year | ⟨year, month | ⟨month, day⟩⟩
  · have bounds := dayNumber_bounds valid
    have bounds_later := dayNumber_bounds valid_later
    have years := daysBeforeYear_strictMono.monotone (show d.year ≤ e.year - 1 by omega)
    omega
  · exact dayNumber_lt_of_month valid valid_later year month
  · have some_day := valid.2.2.2.2.1
    rw [dayNumber_eq valid, dayNumber_eq valid_later]
    unfold countedDay countedYear countedMonth
    rw [year, month]
    omega

theorem dayNumber_inj (valid : d.IsValid) (valid_other : e.IsValid) :
    d.dayNumber = e.dayNumber ↔ d = e := by
  constructor
  · intro same
    rw [← ofDayNumber_dayNumber valid, same, ofDayNumber_dayNumber valid_other]
  · intro same
    rw [same]

/-- Numbers of days are in the order of the calendar. -/
theorem dayNumber_lt_iff (valid : d.IsValid) (valid_other : e.IsValid) :
    d.dayNumber < e.dayNumber ↔ d.Before e := by
  constructor
  · intro less
    by_contra not_before
    have cases : e.Before d ∨ d = e := by
      unfold Before at *
      rw [Date.mk.injEq]
      omega
    rcases cases with later | same
    · have := dayNumber_lt_of_before valid_other valid later
      omega
    · rw [same] at less
      exact Nat.lt_irrefl _ less
  · exact dayNumber_lt_of_before valid valid_other

end Date

end Curator.Calendar
