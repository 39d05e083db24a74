import CameraRoll.Calendar.Time
import CameraRoll.Naming.Kind

/-!
The canonical name of a new picture: start by kind, date and time of the capture, extension by kind.
-/

namespace CameraRoll.Naming

open CameraRoll.Calendar CameraRoll.Text

def imageExtension : String := ".jpg"

def videoExtension : String := ".mkv"

/-- Start of the names of a kind. -/
def startOf : MediaKind → String
  | .image => imageStart
  | .video => videoStart

/-- Extension of the names of a kind. -/
def extensionOf : MediaKind → String
  | .image => imageExtension
  | .video => videoExtension

/-- A year padded to four characters, a sign among them. -/
def yearField (year : Int) : List Char :=
  if year < 0 then '-' :: paddedNumeral 3 year.natAbs else paddedNumeral 4 year.natAbs

/-- The wall clock on which an instant is named: the zone's, or universal time where the zone's
leaves the years that names can hold. -/
def namingClock (instant : Instant) (zone : Zone) : WallClock :=
  let wall := instant.wallClock (zone.offsetAt instant)
  if wall.inRange then wall else instant.wallClock 0

/-- Date and time of a wall clock as they stand in a name. -/
def stampField (wall : WallClock) : List Char :=
  yearField wall.date.year ++ paddedNumeral 2 wall.date.month ++ paddedNumeral 2 wall.date.day
    ++ '_' :: (paddedNumeral 2 wall.hour ++ paddedNumeral 2 wall.minute
      ++ paddedNumeral 2 wall.secondOfMinute)

/-- The characters of the canonical name. -/
def canonicalChars (kind : MediaKind) (instant : Instant) (zone : Zone) : List Char :=
  (startOf kind).toList ++ stampField (namingClock instant zone) ++ (extensionOf kind).toList

/-- The canonical name of a picture captured at an instant. -/
def canonicalName (kind : MediaKind) (instant : Instant) (zone : Zone) : String :=
  String.ofList (canonicalChars kind instant zone)

end CameraRoll.Naming
