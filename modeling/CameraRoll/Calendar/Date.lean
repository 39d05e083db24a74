/-!
Days of the proleptic Gregorian calendar, counted from 1970-01-01. Main statements: the year found
for a day holds it (`yearStart_yearOf_le`, `lt_yearStart_yearOf_succ`), and a day's date counts
back to the day (`Date.dayNumber_ofDayNumber`).
-/

namespace CameraRoll.Calendar

/-- Every fourth year, but of the full centuries only every fourth. -/
def isLeap (year : Int) : Bool :=
  year % 4 == 0 && (year % 100 != 0 || year % 400 == 0)

/-- Days from 1970-01-01 to the first day of a year. -/
def yearStart (year : Int) : Int :=
  365 * (year - 1) + (year - 1) / 4 - (year - 1) / 100 + (year - 1) / 400 - 719162

/-- The year that holds a day: a guess by mean year length, put right by one at most. -/
def yearOf (day : Int) : Int :=
  let guess := (day + 719162) * 400 / 146097 + 1
  if yearStart (guess + 1) ≤ day then guess + 1
  else if yearStart guess ≤ day then guess
  else guess - 1

/-- No day is before the start of its year. -/
theorem yearStart_yearOf_le (day : Int) : yearStart (yearOf day) ≤ day := by
  unfold yearOf
  dsimp only
  split
  · assumption
  · split
    · assumption
    · unfold yearStart at *
      omega

/-- Every day is before the start of the year after its own. -/
theorem lt_yearStart_yearOf_succ (day : Int) : day < yearStart (yearOf day + 1) := by
  unfold yearOf
  dsimp only
  split
  · unfold yearStart at *
    omega
  · rename_i notNext
    split
    · omega
    · rename_i notGuess
      simpa using notGuess

/-- Days of each month in order. -/
def monthLengths (leap : Bool) : List Nat :=
  [31, if leap then 29 else 28, 31, 30, 31, 30, 31, 31, 30, 31, 30, 31]

/-- A day by year, month (1 to 12) and day of the month (from 1). -/
structure Date where
  year : Int
  month : Nat
  day : Nat
  deriving DecidableEq, Repr

/-- Days in months of these lengths. -/
def daysIn : List Nat → Nat
  | [] => 0
  | length :: rest => length + daysIn rest

/-- Days from 1970-01-01 to a date. -/
def Date.dayNumber (date : Date) : Int :=
  yearStart date.year + daysIn ((monthLengths (isLeap date.year)).take (date.month - 1))
    + (date.day - 1 : Int)

/-- Month and day of the month, both from 1, of the day with this place (from 0) in months of
these lengths. Days beyond the last month stay in it. -/
def placeInMonths : Nat → List Nat → Nat → Nat × Nat
  | month, [], place => (month, place + 1)
  | month, [_], place => (month, place + 1)
  | month, length :: rest, place =>
    if place < length then (month, place + 1)
    else placeInMonths (month + 1) rest (place - length)

/-- The date of a day. -/
def Date.ofDayNumber (day : Int) : Date :=
  let year := yearOf day
  let place := placeInMonths 1 (monthLengths (isLeap year)) (day - yearStart year).toNat
  ⟨year, place.1, place.2⟩

/-- The months before the place, together with the day of the month, make up the place. -/
theorem daysIn_placeInMonths (month : Nat) (lengths : List Nat) (place : Nat) :
    month ≤ (placeInMonths month lengths place).1 ∧
      daysIn (lengths.take ((placeInMonths month lengths place).1 - month))
        + (placeInMonths month lengths place).2 = place + 1 := by
  induction lengths generalizing month place with
  | nil => simp [placeInMonths, daysIn]
  | cons length rest ih =>
    cases rest with
    | nil => simp [placeInMonths, daysIn]
    | cons next rest =>
      simp only [placeInMonths]
      split
      · simp [daysIn]
      · rename_i beyond
        obtain ⟨above, total⟩ := ih (month + 1) (place - length)
        refine ⟨by omega, ?_⟩
        have step : (placeInMonths (month + 1) (next :: rest) (place - length)).1 - month
            = (placeInMonths (month + 1) (next :: rest) (place - length)).1 - (month + 1) + 1 := by
          omega
        rw [step, List.take_succ_cons, daysIn]
        omega

/-- A day's date counts back to the day. -/
theorem Date.dayNumber_ofDayNumber (day : Int) : (Date.ofDayNumber day).dayNumber = day := by
  have first := yearStart_yearOf_le day
  have sum := (daysIn_placeInMonths 1 (monthLengths (isLeap (yearOf day)))
    (day - yearStart (yearOf day)).toNat).2
  simp only [Date.ofDayNumber, Date.dayNumber]
  omega

end CameraRoll.Calendar
