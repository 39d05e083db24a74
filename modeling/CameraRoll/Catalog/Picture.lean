import CameraRoll.Library.File
import CameraRoll.Naming.CaptureTime

/-!
Pictures, and lists of pictures sorted by capture time.
-/

namespace CameraRoll

open CameraRoll.Calendar

/-- A primary file and its thumbnail, if it has one. -/
structure Picture where
  file : StoredFile
  thumbnail : Option StoredFile
  kind : MediaKind
  time : ZonedTime
  deriving DecidableEq, Repr

namespace Picture

/-- The name of the picture's file. -/
def name (picture : Picture) : String := picture.file.name

/-- The capture time, for sorting. -/
def instant (picture : Picture) : Int := picture.time.instant.nanos

/-- Pictures are the same if their primary files are. -/
def isSame (a b : Picture) : Bool := a.file.isSame b.file

/-- The picture of a primary file; `none` where its time is out of the calendar. -/
def ofFile (file : StoredFile) (thumbnail : Option StoredFile) (zone : Zone) : Option Picture :=
  (Naming.captureTime file.name zone).map fun time => ⟨file, thumbnail, file.kind.mediaKind, time⟩

/-- A list with a picture put behind the last one that was taken at or before it. -/
def insert (picture : Picture) : List Picture → List Picture
  | [] => [picture]
  | other :: rest =>
    if (other :: rest).any (·.instant ≤ picture.instant) then other :: insert picture rest
    else picture :: other :: rest

/-- A list without its first picture that is the same. -/
def erase (picture : Picture) (pictures : List Picture) : List Picture :=
  pictures.eraseP (·.isSame picture)

/-- A list sorted by time; pictures of one time stay in their order. -/
def sortByTime (pictures : List Picture) : List Picture :=
  pictures.mergeSort fun a b => a.instant ≤ b.instant

end Picture

end CameraRoll
