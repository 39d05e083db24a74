import CameraRoll.Calendar.Date
import CameraRoll.Text.Numeral

/-!
Instants, time zones and readings of a wall clock. An instant and a wall clock reading are both
counted in nanoseconds, from the epoch and from the epoch's own reading; a zone ties the two
together by an offset, which the platform's own zone may change from instant to instant. Readings
are kept within the years -9999 to 9999.
-/

namespace CameraRoll.Calendar

open CameraRoll.Text

def second : Int := 1000000000

def dayLength : Int := 86400 * second

/-- A point in time, in nanoseconds since 1970-01-01 0:00 UTC. -/
structure Instant where
  nanos : Int
  deriving DecidableEq, Repr

/-- The reading of a wall clock, in nanoseconds since it read 1970-01-01 0:00. -/
structure WallClock where
  nanos : Int
  deriving DecidableEq, Repr

/-- The zone in which times in names are written and read. -/
inductive Zone where
  /-- The zone of the platform, which tells how many seconds its clocks are ahead of universal time at
  an instant, if it can. -/
  | platform (offset? : Instant → Option Int)
  /-- A fixed number of seconds east of universal time. -/
  | fixed (seconds : Int)

namespace Zone

/-- Universal time as a fixed offset. -/
def utc : Zone := .fixed 0

/-- The zone of a platform that does not tell its offset. -/
def system : Zone := .platform fun _ => none

/-- Seconds that clocks of the zone are ahead of universal time at an instant. A platform that does
not tell them is taken to keep universal time. -/
def offsetAt : Zone → Instant → Int
  | .platform offset?, instant => (offset? instant).getD 0
  | .fixed seconds, _ => seconds

/-- The offset for a reading of a wall clock: the one in effect when universal time reads the same.
Where clocks are put forward or back, this settles which of them is meant. -/
def offsetOf (zone : Zone) (wall : WallClock) : Int := zone.offsetAt ⟨wall.nanos⟩

/-- The offset at the epoch. -/
def offset (zone : Zone) : Int := zone.offsetAt ⟨0⟩

/-- Clocks of the zone are never put forward or back. -/
def Keeps (zone : Zone) (offset : Int) : Prop := ∀ instant, zone.offsetAt instant = offset

theorem Keeps.offsetOf {zone : Zone} {offset : Int} (keeps : zone.Keeps offset)
    (wall : WallClock) : zone.offsetOf wall = offset := keeps _

theorem keeps_fixed (seconds : Int) : (fixed seconds).Keeps seconds := fun _ => rfl

end Zone

/-- A wall clock reading together with its offset in seconds. -/
structure ZonedTime where
  wall : WallClock
  offset : Int
  deriving DecidableEq, Repr

/-- The instant of a zoned time. -/
def ZonedTime.instant (time : ZonedTime) : Instant :=
  ⟨time.wall.nanos - time.offset * second⟩

/-- The epoch, read in universal time. -/
def ZonedTime.epoch : ZonedTime := ⟨⟨0⟩, 0⟩

/-- The wall clock of a zone with this offset at an instant. -/
def Instant.wallClock (instant : Instant) (offset : Int) : WallClock :=
  ⟨instant.nanos + offset * second⟩

/-- The instant a whole number of seconds after the epoch. -/
def Instant.ofSeconds (seconds : Int) : Instant := ⟨seconds * second⟩

/-- The reading is in the years -9999 to 9999. -/
def WallClock.inRange (wall : WallClock) : Bool :=
  yearStart (-9999) * dayLength ≤ wall.nanos && wall.nanos < yearStart 10000 * dayLength

/-- The day of a reading. -/
def WallClock.date (wall : WallClock) : Date := Date.ofDayNumber (wall.nanos / dayLength)

def WallClock.secondOfDay (wall : WallClock) : Nat := (wall.nanos % dayLength / second).toNat

def WallClock.hour (wall : WallClock) : Nat := wall.secondOfDay / 3600

/-- Minutes since the last full hour. -/
def WallClock.minute (wall : WallClock) : Nat := wall.secondOfDay / 60 % 60

/-- Seconds since the last full minute. -/
def WallClock.secondOfMinute (wall : WallClock) : Nat := wall.secondOfDay % 60

/-- Nanoseconds since the last full second. -/
def WallClock.fraction (wall : WallClock) : Nat := (wall.nanos % second).toNat

/-- A number with its sign in front when negative, the digits padded to `width`. -/
def signedNumeral (width : Nat) (n : Int) : List Char :=
  if n < 0 then '-' :: paddedNumeral width n.natAbs else paddedNumeral width n.natAbs

/-- Nine digits of a fraction without the zeros at their end, but at least one digit. -/
def fractionDigits (nanos : Nat) : List Char :=
  match ((paddedNumeral 9 nanos).reverse.dropWhile (· == '0')).reverse with
  | [] => ['0']
  | digits => digits

/-- An offset as sign, hours, minutes and seconds. -/
def offsetText (offset : Int) : List Char :=
  let n := offset.natAbs
  (if offset < 0 then '-' else '+') ::
    (paddedNumeral 2 (n / 3600) ++ ':' :: paddedNumeral 2 (n / 60 % 60)
      ++ ':' :: paddedNumeral 2 (n % 60))

/-- A zoned time for people: date, time with an unpadded hour and at least one digit of fraction,
offset. -/
def ZonedTime.text (time : ZonedTime) : String :=
  let date := time.wall.date
  String.ofList
    (signedNumeral 4 date.year ++ '-' :: paddedNumeral 2 date.month
      ++ '-' :: paddedNumeral 2 date.day
      ++ ' ' :: numeral time.wall.hour ++ ':' :: paddedNumeral 2 time.wall.minute
      ++ ':' :: paddedNumeral 2 time.wall.secondOfMinute
      ++ '.' :: fractionDigits time.wall.fraction
      ++ ' ' :: offsetText time.offset)

/-- A wall clock read with its offset gives back the instant. -/
theorem ZonedTime.instant_wallClock (instant : Instant) (offset : Int) :
    ZonedTime.instant ⟨instant.wallClock offset, offset⟩ = instant := by
  simp only [ZonedTime.instant, Instant.wallClock, Int.add_sub_cancel]

end CameraRoll.Calendar
