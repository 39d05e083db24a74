import CameraRoll.Naming.Regulation

/-!
The capture time that a name encodes. Fields beyond their usual range carry over into the next
larger unit, and the duplicate index counts as milliseconds, so that duplicates sort behind the
first picture.
-/

namespace CameraRoll.Naming

open CameraRoll.Calendar CameraRoll.Text

/-- The fields of a stamp as numbers. -/
structure StampFields where
  year : Nat
  month : Nat
  day : Nat
  hours : Nat
  minutes : Nat
  seconds : Nat
  deriving DecidableEq, Repr

/-- The fields of a stamp, if all of its digits have a value. -/
def Stamp.fields (stamp : Stamp) : Option StampFields := do
  let date := stamp.date
  let time := stamp.time
  return ⟨← readNumeral (date.take 4), ← readNumeral ((date.drop 4).take 2),
    ← readNumeral (date.drop 6), ← readNumeral (time.take 2),
    ← readNumeral ((time.drop 2).take 2), ← readNumeral (time.drop 4)⟩

/-- First day of the month that lies `month - 1` months after January of the year. -/
def StampFields.firstOfMonth (fields : StampFields) : Date :=
  let months : Int := fields.year * 12 + fields.month - 1
  ⟨months / 12, (months % 12).toNat + 1, 1⟩

/-- Midnight of the first day of the month. -/
def StampFields.monthStart (fields : StampFields) : WallClock :=
  ⟨fields.firstOfMonth.dayNumber * dayLength⟩

/-- The wall clock that the fields denote, each carried over into the next unit. -/
def StampFields.wallClock (fields : StampFields) : WallClock :=
  ⟨fields.monthStart.nanos + ((fields.day : Int) - 1) * dayLength
    + ((fields.hours * 3600 + fields.minutes * 60 + fields.seconds : Nat) : Int) * second⟩

/-- The wall clock of a stamp, if its month and itself are within the calendar. -/
def Stamp.wallClock (stamp : Stamp) : Option WallClock := do
  let fields ← stamp.fields
  if fields.monthStart.inRange && fields.wallClock.inRange then some fields.wallClock else none

/-- Milliseconds that the duplicate index adds; an index without a value adds none. -/
def Stamp.duplicateMillis (stamp : Stamp) : Nat :=
  (stamp.index.bind (readNumeralUpTo maxSigned64)).getD 0

/-- The capture time of a name given as characters; `none` where the duplicate index takes it out
of the calendar. A name without a time gives the epoch. The offset is that of the stamp itself, which
the duplicate index does not change. -/
def captureTimeOfChars (name : List Char) (zone : Zone) : Option ZonedTime :=
  match findStamp (regulateChars name zone) with
  | none => some .epoch
  | some stamp =>
    match stamp.wallClock with
    | none => some .epoch
    | some wall =>
      let shifted : WallClock := ⟨wall.nanos + stamp.duplicateMillis * 1000000⟩
      if shifted.inRange then some ⟨shifted, zone.offsetOf wall⟩ else none

/-- The capture time of a name. -/
def captureTime (name : String) (zone : Zone) : Option ZonedTime :=
  captureTimeOfChars name.toList zone

end CameraRoll.Naming
