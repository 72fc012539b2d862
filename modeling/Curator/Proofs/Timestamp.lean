import Curator.Proofs.Calendar.Stamps
import Curator.Proofs.Number.Quotients
import Curator.Proofs.Transform.Refusals
import Curator.Timestamp
/-!
# Seconds and timestamps

A second of the calendar is written as the stamp of its moment.  A stamp with a year of four digits
reads back as its second, the floating-point division on the way included, since no second of the
calendar has more than 53 bits.

What stands for a moment has a timestamp: the stamp of the second that the moment is in.  Of two
timestamps the lesser text is that of the earlier second as long as their years have equally many
digits; between years of different length it is the lesser text of the years that decides.
-/

set_option autoImplicit false

namespace Curator

open Calendar Number Text

/-! ## Seconds as dates and times -/

namespace Transform

variable {n : Int} {year : Nat}

/-- A second of the calendar is a moment in universal time. -/
theorem momentAt_inYear (within : InYear n year) : ∃ m, momentAt n = .ok m ∧ m.IsValid ∧
    m.date.year = year ∧ m.clockSecond = n ∧ m.microsecond = 0 ∧ m.offset = some 0 := by
  have whole : (n * microsPerSecond).fdiv microsPerSecond = n := Int.mul_fdiv_cancel n (by decide)
  have in_range : InYear ((n * microsPerSecond).fdiv microsPerSecond) year := by rwa [whole]
  obtain ⟨m, set⟩ := Moment.exists_ofClockMicros? in_range (some 0)
  obtain ⟨valid, shown, offset⟩ := Moment.ofClockMicros?_eq_some set
  have second : m.clockSecond = n := by
    rw [← Moment.clockMicros_fdiv valid, shown, whole]
  have micros : m.microsecond = 0 := by
    rw [Moment.clockMicros_eq, second] at shown
    omega
  have in_year := Moment.inYear_clockSecond valid
  rw [second] at in_year
  refine ⟨m, ?_, valid, in_year.unique within, second, micros, offset⟩
  obtain ⟨first, last⟩ := within.bounds
  rw [momentAt_eq, if_neg (by omega), if_neg (by omega), set]

/-- A clock that shows universal time and a whole second is at that second. -/
theorem epochSeconds_eq {m : Moment} (valid : m.IsValid) (universal : m.offset.getD 0 = 0)
    (whole : m.microsecond = 0) : m.epochSeconds = m.clockSecond := by
  have micros : m.micros = m.clockSecond * microsPerSecond := by
    rw [Moment.micros, universal, Moment.clockMicros_eq, whole]
    omega
  have small : m.clockSecond.natAbs < 2 ^ 53 := by
    obtain ⟨first, last⟩ := (Moment.inYear_clockSecond valid).bounds
    omega
  have quotient := Binary64.quotient?_whole small (show 0 < 1000000 by decide)
  rw [Moment.epochSeconds, micros]
  exact congrArg (·.getD 0) quotient

/-- A second of a year of four digits is what its stamp reads back as, and its date is the first ten
characters of the stamp. -/
theorem timestamp_round_trip (within : InYear n year) (long : 1000 ≤ year) :
    ∃ text, apply .datetime (.int n) = .ok (.str text) ∧
      apply .timestamp (.str text) = .ok (.int n) ∧
      apply .date (.int n) = .ok (.str (String.ofList (text.toList.take 10))) := by
  obtain ⟨m, moment, valid, rfl, second, _, _⟩ := momentAt_inYear within
  have read := readMoment?_stampText valid long
  have seconds := epochSeconds_eq valid.stamped rfl rfl
  refine ⟨m.stampText, ?_, ?_, ?_⟩
  · simp [apply, toDatetime, moment]
  · simp [apply, toTimestamp, read, seconds, Moment.clockSecond_stamped, second]
  · rw [take_stampText valid.date long, String.ofList_toList]
    simp [apply, toDate, moment]

end Transform

namespace Sample

/-- The second before the epoch. -/
theorem last_second_of_1969 : InYear (-1) 1969 ∧ 1000 ≤ 1969 ∧
    ∃ text, Transform.apply .datetime (.int (-1)) = .ok (.str text) ∧
      Transform.apply .timestamp (.str text) = .ok (.int (-1)) ∧
      Transform.apply .date (.int (-1)) = .ok (.str (String.ofList (text.toList.take 10))) := by
  have within : InYear (-1) 1969 := by
    constructor
    all_goals decide
  exact ⟨within, by decide, Transform.timestamp_round_trip within (by decide)⟩

end Sample

/-! ## Seconds that values stand for -/

/-- A value that stands for a moment, and the second in universal time that the moment is in. -/
inductive StandsFor : Value → Int → Prop
  | second (n : Int) : StandsFor (.int n) n
  | moment {m : Moment} (valid : m.IsValid) : StandsFor (.moment m) (m.micros.fdiv microsPerSecond)

/-- How the stamps of two seconds are ordered: by the texts of their years, and in one year as the
seconds are. -/
def StampOrder (second later : Int) (year other : Nat) : Prop :=
  toString year < toString other ∨ year = other ∧ second < later

theorem stampOrder_iff {second later : Int} {year other : Nat} (within : InYear second year)
    (within' : InYear later other) (digits : (toString year).length = (toString other).length) :
    StampOrder second later year other ↔ second < later := by
  unfold StampOrder
  rw [toString_lt_iff digits]
  rcases Nat.lt_trichotomy year other with less | same | more
  · have sooner := within.lt_of_year_lt within' less
    simp [less, sooner]
  · subst same
    simp
  · have later_first := within'.lt_of_year_lt within more
    have apart : ¬ year < other ∧ ¬ year = other ∧ ¬ second < later := by omega
    simp [apart]

/-! ## Timestamps of seconds -/

/-- A moment that is in a year of the calendar in universal time. -/
theorem universal_inYear {m : Moment} {year : Nat} (valid : m.IsValid)
    (within : InYear (m.micros.fdiv microsPerSecond) year) :
    ∃ u, universal m = .ok u ∧ u.IsValid ∧ u.clockSecond = m.micros.fdiv microsPerSecond := by
  unfold universal
  cases offset : m.offset with
  | none =>
    have micros : m.micros = m.clockMicros := by
      rw [Moment.micros, offset]
      exact Int.sub_zero _
    exact ⟨m, rfl, valid, by rw [micros, Moment.clockMicros_fdiv valid]⟩
  | some ahead =>
    obtain ⟨u, set⟩ := Moment.exists_ofClockMicros? within (some 0)
    obtain ⟨valid_set, shown, _⟩ := Moment.ofClockMicros?_eq_some set
    have there : m.toUniversal? = some u := set
    exact ⟨u, by simp only [there], valid_set, by rw [← shown, Moment.clockMicros_fdiv valid_set]⟩

/-- The timestamp of what stands for a second is the stamp of a clock that shows the second. -/
theorem timestamp_inYear {v : Value} {second : Int} {year : Nat} (stands : StandsFor v second)
    (within : InYear second year) : ∃ u : Moment, u.IsValid ∧ u.clockSecond = second ∧
      u.date.year = year ∧ ∀ now, timestamp now v = .ok u.stampText := by
  -- the year of the clock is told by its second
  have found : ∃ u : Moment, u.IsValid ∧ u.clockSecond = second ∧
      ∀ now, timestamp now v = .ok u.stampText := by
    cases stands with
    | second =>
      obtain ⟨m, moment, valid, _, shown, micros, offset⟩ := Transform.momentAt_inYear within
      have whole : m.micros.fdiv microsPerSecond = second := by
        rw [Moment.micros, offset, Option.getD_some, Int.sub_zero, Moment.clockMicros_fdiv valid, shown]
      obtain ⟨u, inUniversal, valid_u, shown_u⟩ := universal_inYear valid (whole.symm ▸ within)
      refine ⟨u, valid_u, shown_u.trans whole, ?_⟩
      intro now
      simp only [timestamp, momentOf, moment, inUniversal, Outcome.ok_bind]
      rfl
    | moment valid =>
      obtain ⟨u, inUniversal, valid_u, shown⟩ := universal_inYear valid within
      refine ⟨u, valid_u, shown, ?_⟩
      intro now
      simp only [timestamp, momentOf, inUniversal, Outcome.ok_bind]
      rfl
  obtain ⟨u, valid, shown, stamp⟩ := found
  have in_year := Moment.inYear_clockSecond valid
  rw [shown] at in_year
  exact ⟨u, valid, shown, in_year.unique within, stamp⟩

/-- Timestamps are ordered as the stamps of their seconds are. -/
theorem timestamp_lt_iff {a b : Value} {second later : Int} {year other : Nat}
    (stands : StandsFor a second) (stands' : StandsFor b later) (within : InYear second year)
    (within' : InYear later other) : ∃ s t, (∀ now, timestamp now a = .ok s) ∧
      (∀ now, timestamp now b = .ok t) ∧ (s < t ↔ StampOrder second later year other) := by
  obtain ⟨u, valid, rfl, rfl, stamp⟩ := timestamp_inYear stands within
  obtain ⟨w, valid', rfl, rfl, stamp'⟩ := timestamp_inYear stands' within'
  exact ⟨_, _, stamp, stamp', Moment.stampText_lt_iff valid valid'⟩

end Curator
