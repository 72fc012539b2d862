import Curator.Proofs.Calendar.Days
import Curator.Proofs.Text.Decimals
import Mathlib.Data.List.TakeWhile
/-!
# Moments and their stamps

Which moments the calendar has, the second that the clock of each shows, and the seconds of its years.
From the microseconds since the epoch a clock is set to the moment it had been read from, as long as
that lies in the years of the calendar.

The stamp of a moment is the text of its date and time.  Years are written without zeros in front, so
stamps are in the order of the moments among years of equally many digits.  A stamp whose year has four
digits reads back as its moment.
-/

set_option autoImplicit false

namespace Curator.Calendar

/-! ## The second that a clock shows -/

namespace Moment

/-- A day of the calendar and a time of that day. -/
structure IsValid (m : Moment) : Prop where
  date : m.date.IsValid
  hour : m.hour < 24
  minute : m.minute < 60
  second : m.second < 60
  microsecond : m.microsecond < 1000000

/-- The seconds of the day that the clock has shown. -/
def secondOfDay (m : Moment) : Nat := m.hour * 3600 + m.minute * 60 + m.second

/-- The second since the epoch that the clock shows, its offset left aside. -/
def clockSecond (m : Moment) : Int := m.date.sinceEpoch * secondsPerDay + m.secondOfDay

variable {m : Moment}

theorem IsValid.secondOfDay_lt (valid : m.IsValid) : m.secondOfDay < 86400 := by
  obtain ⟨_, hour, minute, second, _⟩ := valid
  unfold secondOfDay
  omega

theorem clockMicros_eq (m : Moment) :
    m.clockMicros = m.clockSecond * microsPerSecond + m.microsecond := by
  unfold clockMicros clockSecond secondOfDay microsPerDay secondsPerDay microsPerSecond
  omega

/-- The clock shows a second until the next one. -/
theorem clockMicros_fdiv (valid : m.IsValid) : m.clockMicros.fdiv microsPerSecond = m.clockSecond := by
  have micros := valid.microsecond
  rw [clockMicros_eq, microsPerSecond, Int.fdiv_eq_ediv_of_nonneg _ (by decide)]
  omega

end Moment

/-! ## The seconds of a year -/

/-- The first second of a year. -/
def firstSecond (year : Nat) : Int := (⟨year, 1, 1⟩ : Date).sinceEpoch * secondsPerDay

/-- The seconds since the epoch that belong to a year of the calendar. -/
structure InYear (second : Int) (year : Nat) : Prop where
  some_year : 1 ≤ year
  last_year : year ≤ 9999
  reached : firstSecond year ≤ second
  before : second < firstSecond (year + 1)

theorem firstSecond_eq (year : Nat) : firstSecond year =
    ((daysBeforeYear (year - 1) : Int) + firstDay - epochDay) * secondsPerDay := by
  have number : (⟨year, 1, 1⟩ : Date).dayNumber = daysBeforeYear (year - 1) + firstDay := by
    simp only [Date.dayNumber, daysBeforeYear, firstDay, Nat.one_le_ofNat, if_true]
    omega
  rw [firstSecond, Date.sinceEpoch, number, Int.natCast_add]

theorem firstSecond_mono {year later : Nat} (le : year ≤ later) :
    firstSecond year ≤ firstSecond later := by
  have days := daysBeforeYear_strictMono.monotone (show year - 1 ≤ later - 1 by omega)
  rw [firstSecond_eq, firstSecond_eq]
  unfold secondsPerDay
  omega

/-- The seconds of a year come before those of a later one. -/
theorem InYear.lt_of_year_lt {second later : Int} {y z : Nat} (first : InYear second y)
    (last : InYear later z) (less : y < z) : second < later :=
  calc second < firstSecond (y + 1) := first.before
    _ ≤ firstSecond z := firstSecond_mono less
    _ ≤ later := last.reached

/-- A second belongs to one year. -/
theorem InYear.unique {second : Int} {y z : Nat} (first : InYear second y)
    (other : InYear second z) : y = z := by
  rcases Nat.lt_trichotomy y z with less | same | more
  · exact absurd (first.lt_of_year_lt other less) (Int.lt_irrefl second)
  · exact same
  · exact absurd (other.lt_of_year_lt first more) (Int.lt_irrefl second)

/-- The seconds of the calendar, from the first of the year 1 to the last of the year 9999. -/
theorem InYear.bounds {second : Int} {year : Nat} (within : InYear second year) :
    -62135596800 ≤ second ∧ second < 253402300800 := by
  obtain ⟨some_year, last_year, reached, before⟩ := within
  have first := firstSecond_mono some_year
  have last := firstSecond_mono (show year + 1 ≤ 10000 by omega)
  have first_eq : firstSecond 1 = -62135596800 := by decide
  have last_eq : firstSecond 10000 = 253402300800 := by decide
  omega

/-- What the clock of a moment shows belongs to the year of its date. -/
theorem Moment.inYear_clockSecond {m : Moment} (valid : m.IsValid) :
    InYear m.clockSecond m.date.year := by
  have bounds := Date.dayNumber_bounds valid.date
  have time := valid.secondOfDay_lt
  constructor
  · exact valid.date.1
  · exact valid.date.2.1
  · rw [firstSecond_eq]
    unfold clockSecond Date.sinceEpoch secondsPerDay firstDay
    omega
  · rw [firstSecond_eq, Nat.add_sub_cancel]
    unfold clockSecond Date.sinceEpoch secondsPerDay firstDay
    omega

/-! ## Setting a clock -/

/-- A day counted from the epoch is found in the calendar if its years have it. -/
theorem Date.ofSinceEpoch?_eq_some {days : Int} {d : Date} (found : ofSinceEpoch? days = some d) :
    d.IsValid ∧ d.sinceEpoch = days := by
  unfold ofSinceEpoch? at found
  by_cases within : (firstDay : Int) ≤ days + epochDay ∧ days + epochDay < endDay
  · simp only [if_pos within, Option.some.injEq] at found
    subst found
    obtain ⟨valid, number⟩ := ofDayNumber_valid (n := (days + epochDay).toNat)
      (by omega) (by omega)
    refine ⟨valid, ?_⟩
    unfold sinceEpoch
    rw [number]
    omega
  · simp only [if_neg within, reduceCtorEq] at found

namespace Moment

variable {micros : Int} {offset : Option Int} {m n : Moment}

theorem microsPerDay_eq : microsPerDay = 86400000000 := rfl

/-- A clock that was set shows what it was set to. -/
theorem ofClockMicros?_eq_some (set : ofClockMicros? micros offset = some m) :
    m.IsValid ∧ m.clockMicros = micros ∧ m.offset = offset := by
  unfold ofClockMicros? at set
  obtain ⟨date, found, rfl⟩ := Option.map_eq_some_iff.mp set
  obtain ⟨valid, days⟩ := Date.ofSinceEpoch?_eq_some found
  rw [microsPerDay_eq, Int.fdiv_eq_ediv_of_nonneg _ (by decide)] at days
  rw [microsPerDay_eq, Int.fmod_eq_emod_of_nonneg _ (by decide)]
  have parts := Int.emod_add_mul_ediv micros 86400000000
  have some_rest := Int.emod_nonneg micros (show (86400000000 : Int) ≠ 0 by decide)
  have rest := Int.emod_lt_of_pos micros (show (0 : Int) < 86400000000 by decide)
  rw [← days] at parts
  generalize micros % 86400000000 = rest_of_day at parts some_rest rest ⊢
  refine ⟨⟨valid, ?_, ?_, ?_, ?_⟩, ?_, rfl⟩
  · simp only
    omega
  · exact Nat.mod_lt _ (by decide)
  · exact Nat.mod_lt _ (by decide)
  · exact Nat.mod_lt _ (by decide)
  · unfold clockMicros
    simp only [microsPerDay_eq, microsPerSecond]
    omega

/-- A clock can be set within the years of the calendar. -/
theorem exists_ofClockMicros? {year : Nat}
    (within : InYear (micros.fdiv microsPerSecond) year) (offset : Option Int) :
    ∃ m, ofClockMicros? micros offset = some m := by
  have bounds := within.bounds
  rw [microsPerSecond, Int.fdiv_eq_ediv_of_nonneg _ (by decide)] at bounds
  have inside : (firstDay : Int) ≤ micros.fdiv microsPerDay + epochDay ∧
      micros.fdiv microsPerDay + epochDay < endDay := by
    rw [microsPerDay_eq, Int.fdiv_eq_ediv_of_nonneg _ (by decide)]
    unfold firstDay endDay epochDay
    omega
  unfold ofClockMicros? Date.ofSinceEpoch?
  simp only [if_pos inside, Option.map_some]
  exact ⟨_, rfl⟩

end Moment

open Text

/-! ## Stamps -/

namespace Date

/-- The text of month and day. -/
def dayChars (d : Date) : List Char :=
  (padded 2 d.month).toList ++ '-' :: (padded 2 d.day).toList

theorem toList_stampText (d : Date) :
    d.stampText.toList = (toString d.year).toList ++ '-' :: d.dayChars := by
  simp [stampText, dayChars]

variable {d e : Date}

theorem IsValid.small (valid : d.IsValid) : d.year < 10000 ∧ d.month < 100 ∧ d.day < 100 := by
  obtain ⟨_, last_year, _, last_month, _, last_day⟩ := valid
  have longest : daysInMonth d.year d.month ≤ 31 := by
    unfold daysInMonth
    repeat' split
    all_goals decide
  simp only [greatestYear] at last_year
  omega

theorem length_dayChars (valid : d.IsValid) : d.dayChars.length = 5 := by
  obtain ⟨_, month, day⟩ := valid.small
  simp [dayChars, length_padded, month, day]

theorem dayChars_lt_iff (valid : d.IsValid) (valid' : e.IsValid) : d.dayChars < e.dayChars ↔
    d.month < e.month ∨ d.month = e.month ∧ d.day < e.day := by
  obtain ⟨_, month, day⟩ := valid.small
  obtain ⟨_, month', day'⟩ := valid'.small
  unfold dayChars
  rw [marked_lt_marked_iff (by decide) (decimal_padded _ _) (decimal_padded _ _),
    padded_lt_iff (by decide) month month', padded_lt_iff (by decide) day day', padded_inj]

theorem dayChars_inj (valid : d.IsValid) (valid' : e.IsValid) :
    d.dayChars = e.dayChars ↔ d.month = e.month ∧ d.day = e.day := by
  obtain ⟨_, month, _⟩ := valid.small
  obtain ⟨_, month', _⟩ := valid'.small
  have lengths : (padded 2 d.month).toList.length = (padded 2 e.month).toList.length := by
    rw [length_padded (by decide) month, length_padded (by decide) month']
  unfold dayChars
  constructor
  · intro same
    obtain ⟨months, days⟩ := List.append_inj same lengths
    exact ⟨padded_inj.mp months, padded_inj.mp (List.cons.inj days).2⟩
  · rintro ⟨months, days⟩
    rw [months, days]

end Date

namespace Moment

/-- The text of the time of day. -/
def timeChars (m : Moment) : List Char :=
  (padded 2 m.hour).toList ++ ':' :: ((padded 2 m.minute).toList ++ ':' :: (padded 2 m.second).toList)

theorem toList_timeText (m : Moment) : m.timeText.toList = m.timeChars := by
  simp [timeText, timeChars]

theorem toList_stampText (m : Moment) : m.stampText.toList =
    (toString m.date.year).toList ++ '-' :: (m.date.dayChars ++ ' ' :: m.timeChars) := by
  simp [stampText, Date.toList_stampText, toList_timeText]

/-! ## The order of stamps -/

variable {m n : Moment}

theorem timeChars_lt_iff (valid : m.IsValid) (valid' : n.IsValid) :
    m.timeChars < n.timeChars ↔ m.secondOfDay < n.secondOfDay := by
  obtain ⟨_, hour, minute, second, _⟩ := valid
  obtain ⟨_, hour', minute', second', _⟩ := valid'
  have width : ∀ k : Nat, k < 60 → (padded 2 k).toList.length = 2 :=
    fun k small => length_padded (by decide) (by omega)
  unfold timeChars secondOfDay
  rw [append_lt_append_iff (by rw [width _ (by omega), width _ (by omega)]), List.cons_lt_cons_iff,
    append_lt_append_iff (by rw [width _ minute, width _ minute']), List.cons_lt_cons_iff,
    padded_lt_iff (by decide) (by omega) (by omega), padded_lt_iff (by decide) (by omega) (by omega),
    padded_lt_iff (by decide) (by omega) (by omega), padded_inj, padded_inj]
  have irrefl : ¬ ':' < ':' := by decide
  simp only [irrefl, false_or, true_and]
  omega

/-- Clocks are in the order of their dates, and on one day in that of their times. -/
theorem clockSecond_lt_iff (valid : m.IsValid) (valid' : n.IsValid) :
    m.clockSecond < n.clockSecond ↔
      m.date.Before n.date ∨ m.date = n.date ∧ m.secondOfDay < n.secondOfDay := by
  have time := valid.secondOfDay_lt
  have time' := valid'.secondOfDay_lt
  rw [← Date.dayNumber_lt_iff valid.date valid'.date, ← Date.dayNumber_inj valid.date valid'.date]
  unfold clockSecond Date.sinceEpoch secondsPerDay
  omega

/-- Stamps are in the order of the texts of their years, and in one year in that of their clocks. -/
theorem stampText_lt_iff (valid : m.IsValid) (valid' : n.IsValid) : m.stampText < n.stampText ↔
    toString m.date.year < toString n.date.year ∨
      m.date.year = n.date.year ∧ m.clockSecond < n.clockSecond := by
  have days : m.date.dayChars.length = n.date.dayChars.length := by
    rw [Date.length_dayChars valid.date, Date.length_dayChars valid'.date]
  have irrefl : ¬ ' ' < ' ' := by decide
  have dates : m.date = n.date ↔ m.date.year = n.date.year ∧ m.date.month = n.date.month ∧
      m.date.day = n.date.day := Date.mk.injEq .. ▸ Iff.rfl
  rw [String.lt_iff, String.lt_iff, toList_stampText, toList_stampText,
    marked_lt_marked_iff (by decide) (decimal_toString _) (decimal_toString _),
    toList_toString_inj, append_lt_append_iff days, List.cons_lt_cons_iff, timeChars_lt_iff valid valid',
    Date.dayChars_lt_iff valid.date valid'.date, Date.dayChars_inj valid.date valid'.date,
    clockSecond_lt_iff valid valid', dates]
  unfold Date.Before
  simp only [irrefl, false_or, true_and]
  constructor
  · rintro (less | ⟨same, rest⟩)
    · exact Or.inl less
    · refine Or.inr ⟨same, ?_⟩
      omega
  · rintro (less | ⟨same, rest⟩)
    · exact Or.inl less
    · refine Or.inr ⟨same, ?_⟩
      omega

end Moment

/-! ## Reading stamps back -/

/-- The moment as its stamp tells it: without an offset and without a fraction of its second. -/
def Moment.stamped (m : Moment) : Moment := { m with microsecond := 0, offset := none }

theorem Moment.clockSecond_stamped (m : Moment) : m.stamped.clockSecond = m.clockSecond := rfl

theorem Moment.IsValid.stamped {m : Moment} (valid : m.IsValid) : m.stamped.IsValid :=
  { valid with microsecond := show 0 < 1000000 by decide }

theorem length_le_utf8ByteSize (text : String) : text.toList.length ≤ text.utf8ByteSize := by
  obtain ⟨chars, rfl⟩ : ∃ chars, text = String.ofList chars := ⟨text.toList, by simp⟩
  rw [String.toList_ofList]
  induction chars with
  | nil => simp
  | cons c chars ih =>
    have size := c.utf8Size_pos
    have whole : String.ofList (c :: chars) = String.singleton c ++ String.ofList chars := by
      apply String.toList_inj.mp
      simp
    rw [whole, String.utf8ByteSize_append, String.utf8ByteSize_singleton, List.length_cons]
    omega

/-- A dash behind four digits and no week behind it: the date has ten characters. -/
theorem dateLength_dashed {year rest : List Char} (four : year.length = 4) (long : rest.length ≠ 2)
    (not_week : ∀ more, rest ≠ 'W' :: more) : dateLength (year ++ '-' :: rest) = some 10 := by
  have dash : (year ++ '-' :: rest)[4]? = some '-' := by
    rw [List.getElem?_append_right (Nat.le_of_eq four), four]
    rfl
  have behind : (year ++ '-' :: rest)[5]? = rest[0]? := by
    rw [List.getElem?_append_right (by omega), four]
    rfl
  have length : ¬ (year ++ '-' :: rest).length = 7 := by
    rw [List.length_append, List.length_cons]
    omega
  have no_week : ¬ rest[0]? = some 'W' := by
    intro found
    rw [← List.head?_eq_getElem?] at found
    obtain ⟨more, same⟩ := List.head?_eq_some_iff.mp found
    exact not_week more same
  unfold dateLength
  simp only [dash, behind, if_neg length, if_neg no_week, if_true]

theorem padded_ne_cons {width n : Nat} (some_width : 0 < width) (small : n < 10 ^ width) {c : Char}
    (other : c.isDigit = false) (rest more : List Char) :
    (padded width n).toList ++ rest ≠ c :: more := by
  intro same
  have length := length_padded some_width small
  have decimal := decimal_padded width n
  cases chars : (padded width n).toList with
  | nil =>
    rw [chars, List.length_nil] at length
    omega
  | cons d digits =>
    rw [chars, List.cons_append, List.cons.injEq] at same
    have digit := decimal d (chars ▸ List.mem_cons_self)
    rw [same.1, other] at digit
    cases digit

theorem takeDigits?_two {n : Nat} (small : n < 100) (rest : List Char) :
    takeDigits? 2 ((padded 2 n).toList ++ rest) = some (n, rest) :=
  takeDigits?_padded Nat.two_pos small rest

theorem readDatePart?_dashed {d : Date} (valid : d.IsValid) (rest : List Char) :
    readDatePart? 10 ((padded 4 d.year).toList ++ '-' :: (d.dayChars ++ rest)) = some d := by
  obtain ⟨year, month, day⟩ := valid.small
  unfold readDatePart? Date.dayChars
  rw [takeDigits?_padded (by decide) year]
  simp only [Option.bind_eq_bind, Option.bind_some, List.head?_cons, if_true, List.tail_cons,
    List.append_assoc, List.cons_append]
  split
  · rename_i week
    exact absurd week (padded_ne_cons (by decide) month rfl _ _)
  · simp only [takeDigits?_two month, takeDigits?_two day, Option.bind_some, List.head?_cons, if_true,
      List.tail_cons, if_pos valid]

theorem readClock_timeChars {m : Moment} (valid : m.IsValid) :
    readClock m.timeChars.length m.timeChars = .read ⟨m.hour, m.minute, m.second, 0⟩ false := by
  obtain ⟨_, hour, minute, second, _⟩ := valid
  have width : ∀ k : Nat, k < 60 → (padded 2 k).toList.length = 2 :=
    fun k small => length_padded (by decide) (by omega)
  have length : m.timeChars.length = 8 := by
    simp only [Moment.timeChars, List.length_append, List.length_cons, width m.hour (by omega),
      width m.minute minute, width m.second second]
  have last := takeDigits?_two (show m.second < 100 by omega) []
  rw [List.append_nil] at last
  rw [length]
  unfold readClock Moment.timeChars
  simp [readClockFrom, takeDigits?_two (show m.hour < 100 by omega),
    takeDigits?_two (show m.minute < 100 by omega), last]

theorem readTimePart?_timeChars {m : Moment} (valid : m.IsValid) :
    readTimePart? m.timeChars = some (⟨m.hour, m.minute, m.second, 0⟩, none) := by
  have unsigned : ∀ c ∈ m.timeChars, (c != '+' && c != '-' && c != 'Z') = true := by
    have digits : ∀ k : Nat, ∀ c ∈ (padded 2 k).toList, (c != '+' && c != '-' && c != 'Z') = true := by
      intro k c member
      have digit := decimal_padded 2 k c member
      have other : ∀ mark : Char, mark.isDigit = false → c ≠ mark := by
        rintro mark not_digit rfl
        rw [not_digit] at digit
        cases digit
      simp [other '+' rfl, other '-' rfl, other 'Z' rfl]
    intro c member
    simp only [Moment.timeChars, List.mem_append, List.mem_cons] at member
    rcases member with member | rfl | member | rfl | member
    · exact digits _ c member
    · rfl
    · exact digits _ c member
    · rfl
    · exact digits _ c member
  have clock : m.timeChars.takeWhile (fun c => c != '+' && c != '-' && c != 'Z') = m.timeChars :=
    List.takeWhile_eq_self_iff.mpr unsigned
  unfold readTimePart?
  simp [clock, readClock_timeChars valid]

/-- A stamp whose year has four digits reads back as its moment. -/
theorem readMoment?_stampText {m : Moment} (valid : m.IsValid) (long : 1000 ≤ m.date.year) :
    readMoment? m.stampText = some m.stamped := by
  obtain ⟨year, month, day⟩ := valid.date.small
  have four : (toString m.date.year).toList = (padded 4 m.date.year).toList :=
    toString_eq_padded 3 long
  have chars := m.toList_stampText
  have digits : (padded 4 m.date.year).toList.length = 4 := length_padded (by decide) year
  have days := Date.length_dayChars valid.date
  rw [four] at chars
  have size : ¬ m.stampText.utf8ByteSize < 7 := by
    have bytes := length_le_utf8ByteSize m.stampText
    rw [chars, List.length_append, List.length_cons, List.length_append] at bytes
    omega
  have length : dateLength m.stampText.toList = some 10 := by
    rw [chars]
    apply dateLength_dashed digits
    · rw [List.length_append]
      omega
    · unfold Date.dayChars
      intro more
      rw [List.append_assoc]
      exact padded_ne_cons (by decide) month rfl _ more
  have date : readDatePart? 10 m.stampText.toList = some m.date := by
    rw [chars]
    exact readDatePart?_dashed valid.date _
  have rest : m.stampText.toList.drop 10 = ' ' :: m.timeChars := by
    have front : ((padded 4 m.date.year).toList ++ '-' :: m.date.dayChars).length = 10 := by
      rw [List.length_append, List.length_cons]
      omega
    rw [chars, ← List.cons_append, ← List.append_assoc, ← front, List.drop_left]
  obtain ⟨_, hour, minute, second, _⟩ := id valid
  unfold readMoment?
  simp [if_neg size, length, date, rest, readTimePart?_timeChars valid, hour, minute, second,
    Moment.stamped]

/-- The date of a stamp whose year has four digits is its first ten characters. -/
theorem take_stampText {m : Moment} (valid : m.date.IsValid) (long : 1000 ≤ m.date.year) :
    m.stampText.toList.take 10 = m.date.stampText.toList := by
  have four : (toString m.date.year).toList = (padded 4 m.date.year).toList :=
    toString_eq_padded 3 long
  have front : m.date.stampText.toList.length = 10 := by
    have digits : (padded 4 m.date.year).toList.length = 4 := length_padded (by decide) valid.small.1
    have days := Date.length_dayChars valid
    rw [Date.toList_stampText, four, List.length_append, List.length_cons]
    omega
  have whole : m.stampText.toList = m.date.stampText.toList ++ ' ' :: m.timeChars := by
    simp [Moment.stampText, Moment.toList_timeText]
  rw [whole, ← front, List.take_left]

end Curator.Calendar
