import CameraRoll.Calendar.Time

/-!
The fields of dates and times of day: each is in its usual range, and together they make up the
reading they were taken from. Main statements: `Date.ofDayNumber_bounds`,
`WallClock.nanos_eq_fields`, `WallClock.nanos_of_years` and `WallClock.inRange_iff_years`.
-/

namespace CameraRoll.Calendar

/-! ### Years and months -/

theorem yearStart_mono {first second : Int} (le : first ≤ second) :
    yearStart first ≤ yearStart second := by
  unfold yearStart
  omega

theorem daysIn_monthLengths (leap : Bool) :
    daysIn (monthLengths leap) = if leap then 366 else 365 := by
  cases leap <;> rfl

theorem yearStart_succ (year : Int) :
    yearStart (year + 1) = yearStart year + daysIn (monthLengths (isLeap year)) := by
  rw [daysIn_monthLengths]
  unfold yearStart
  split
  next leap =>
    simp only [isLeap, Bool.and_eq_true, Bool.or_eq_true, beq_iff_eq, bne_iff_ne] at leap
    omega
  next common =>
    simp only [isLeap, Bool.and_eq_true, Bool.or_eq_true, beq_iff_eq, bne_iff_ne] at common
    omega

/-- A place within months lies in one of them, on one of its days. -/
theorem placeInMonths_bounds {longest : Nat} (month : Nat) {lengths : List Nat} {place : Nat}
    (within : place < daysIn lengths) (longest_le : ∀ length ∈ lengths, length ≤ longest) :
    (placeInMonths month lengths place).1 < month + lengths.length ∧
      1 ≤ (placeInMonths month lengths place).2 ∧
      (placeInMonths month lengths place).2 ≤ longest := by
  -- by induction on the months that are left, each taking its days off the place
  induction lengths generalizing month place with
  | nil => simp [daysIn] at within
  | cons length rest ih =>
    have first := longest_le length List.mem_cons_self
    cases rest with
    | nil =>
      simp only [daysIn] at within
      simp only [placeInMonths, List.length_cons, List.length_nil]
      omega
    | cons next rest =>
      rw [daysIn] at within
      simp only [placeInMonths]
      split
      · simp only [List.length_cons]
        omega
      · have behind : place - length < daysIn (next :: rest) := by omega
        have later := ih (month + 1) behind
          fun other member => longest_le other (List.mem_cons_of_mem _ member)
        simp only [List.length_cons] at later ⊢
        omega

/-- Months and days of dates are in their usual ranges. -/
theorem Date.ofDayNumber_bounds (day : Int) :
    (1 ≤ (Date.ofDayNumber day).month ∧ (Date.ofDayNumber day).month ≤ 12) ∧
      1 ≤ (Date.ofDayNumber day).day ∧ (Date.ofDayNumber day).day ≤ 31 := by
  -- a day is within its year, which the months fill
  have before := lt_yearStart_yearOf_succ day
  rw [yearStart_succ] at before
  have within : (day - yearStart (yearOf day)).toNat <
      daysIn (monthLengths (isLeap (yearOf day))) := by
    have := yearStart_yearOf_le day
    omega
  have lengths : ∀ leap, ∀ length ∈ monthLengths leap, length ≤ 31 := by decide
  have bounds := placeInMonths_bounds 1 within (lengths _)
  have first := (daysIn_placeInMonths 1 (monthLengths (isLeap (yearOf day)))
    (day - yearStart (yearOf day)).toNat).1
  have twelve : (monthLengths (isLeap (yearOf day))).length = 12 := rfl
  simp only [Date.ofDayNumber]
  omega

/-- The first day of a month and the days since then make up a date. -/
theorem Date.dayNumber_eq_first (date : Date) :
    date.dayNumber = Date.dayNumber ⟨date.year, date.month, 1⟩ + ((date.day : Int) - 1) := by
  simp only [Date.dayNumber]
  omega

theorem yearStart_le_first (year : Int) (month : Nat) :
    yearStart year ≤ Date.dayNumber ⟨year, month, 1⟩ := by
  simp only [Date.dayNumber]
  omega

/-- Every month begins within its year. -/
theorem first_lt_yearStart (year : Int) {month : Nat} (twelve : month ≤ 12) :
    Date.dayNumber ⟨year, month, 1⟩ < yearStart (year + 1) := by
  have months : ∀ leap, ∀ month ≤ 12,
      daysIn ((monthLengths leap).take (month - 1)) < daysIn (monthLengths leap) := by decide
  have before := months (isLeap year) month twelve
  rw [yearStart_succ]
  simp only [Date.dayNumber]
  omega

/-- The years that the calendar has. -/
def InCalendar (year : Int) : Prop := -9999 ≤ year ∧ year ≤ 9999

instance (year : Int) : Decidable (InCalendar year) := inferInstanceAs (Decidable (_ ∧ _))

/-- An offset that clocks have: less than 26 hours either way. -/
def IsClockOffset (offset : Int) : Prop := offset.natAbs < 26 * 3600

/-! ### Wall clocks -/

namespace WallClock

variable (wall : WallClock)

theorem time_bounds : wall.hour < 24 ∧ wall.minute < 60 ∧ wall.secondOfMinute < 60 := by
  simp only [hour, minute, secondOfMinute, secondOfDay, dayLength, second]
  omega

/-- A reading without its fraction of a second is made up of its fields. -/
theorem nanos_eq_fields :
    wall.nanos / second * second = wall.date.dayNumber * dayLength
      + ((wall.hour * 3600 + wall.minute * 60 + wall.secondOfMinute : Nat) : Int) * second := by
  simp only [date, Date.dayNumber_ofDayNumber, hour, minute, secondOfMinute, secondOfDay,
    dayLength, second]
  omega

theorem inRange_iff : wall.inRange = true ↔
    yearStart (-9999) * dayLength ≤ wall.nanos ∧ wall.nanos < yearStart 10000 * dayLength := by
  simp [inRange]

/-- What the year of a reading says about the reading. -/
theorem nanos_of_years {first last : Int}
    (years : first ≤ wall.date.year ∧ wall.date.year ≤ last) :
    yearStart first * dayLength ≤ wall.nanos ∧ wall.nanos < yearStart (last + 1) * dayLength := by
  have begun := yearStart_yearOf_le (wall.nanos / dayLength)
  have ended := lt_yearStart_yearOf_succ (wall.nanos / dayLength)
  change first ≤ yearOf (wall.nanos / dayLength) ∧ yearOf (wall.nanos / dayLength) ≤ last at years
  have lower := yearStart_mono years.1
  have upper : yearStart (yearOf (wall.nanos / dayLength) + 1) ≤ yearStart (last + 1) :=
    yearStart_mono (by omega)
  simp only [dayLength, second] at *
  omega

/-- What the calendar says about the year of a reading. -/
theorem years_of_inRange (inRange : wall.inRange = true) :
    -9999 ≤ wall.date.year ∧ wall.date.year ≤ 9999 := by
  simp only [inRange_iff] at inRange
  obtain ⟨begun, ended⟩ := inRange
  constructor
  -- a year before the first one would end before it begins, and the other way round
  · refine Int.not_lt.mp fun early => ?_
    have before := (wall.nanos_of_years ⟨Int.le_refl _, Int.le_refl _⟩).2
    have later : yearStart (wall.date.year + 1) ≤ yearStart (-9999) := yearStart_mono (by omega)
    simp only [dayLength, second] at *
    omega
  · refine Int.not_lt.mp fun late => ?_
    have after := (wall.nanos_of_years ⟨Int.le_refl _, Int.le_refl _⟩).1
    have sooner : yearStart 10000 ≤ yearStart wall.date.year := yearStart_mono (by omega)
    simp only [dayLength, second] at *
    omega

/-- A reading is in range if its year is one that the calendar has. -/
theorem inRange_iff_years : wall.inRange = true ↔ InCalendar wall.date.year := by
  refine ⟨wall.years_of_inRange, fun years => ?_⟩
  obtain ⟨begun, ended⟩ := wall.nanos_of_years years
  have next : (9999 : Int) + 1 = 10000 := rfl
  rw [next] at ended
  exact wall.inRange_iff.mpr ⟨begun, ended⟩

/-- The reading so many milliseconds later. -/
def later (millis : Nat) : WallClock := ⟨wall.nanos + millis * 1000000⟩

@[simp] theorem later_zero : wall.later 0 = wall := by simp [later]

/-- Midnight is in range if its day is. -/
theorem inRange_midnight_iff (day : Int) :
    WallClock.inRange ⟨day * dayLength⟩ = true ↔
      yearStart (-9999) ≤ day ∧ day < yearStart 10000 := by
  have positive : 0 < dayLength := by decide
  rw [inRange_iff]
  exact and_congr (Int.mul_le_mul_right positive) (Int.mul_lt_mul_right positive)

end WallClock

/-- The first midnight of a month is in range if its year is one that the calendar has. -/
theorem inRange_first_iff (year : Int) {month : Nat} (twelve : month ≤ 12) :
    WallClock.inRange ⟨Date.dayNumber ⟨year, month, 1⟩ * dayLength⟩ = true ↔ InCalendar year := by
  have begun := yearStart_le_first year month
  have ended := first_lt_yearStart year twelve
  rw [WallClock.inRange_midnight_iff]
  constructor
  -- a month of an earlier year begins before the calendar, one of a later year behind it
  · rintro ⟨first, last⟩
    constructor
    · refine Int.not_lt.mp fun early => ?_
      have before : yearStart (year + 1) ≤ yearStart (-9999) := yearStart_mono (by omega)
      exact absurd (Int.lt_of_lt_of_le ended before) (Int.not_lt.mpr first)
    · refine Int.not_lt.mp fun late => ?_
      have after : yearStart 10000 ≤ yearStart year := yearStart_mono (by omega)
      exact absurd (Int.le_trans after begun) (Int.not_le.mpr last)
  · rintro ⟨first, last⟩
    have upper : yearStart (year + 1) ≤ yearStart 10000 := yearStart_mono (by omega)
    exact ⟨Int.le_trans (yearStart_mono first) begun, Int.lt_of_lt_of_le ended upper⟩

end CameraRoll.Calendar
