import CameraRoll.Naming.Kind
import CameraRoll.Store.Basic

/-!
The two locations of a library, and files in them.
-/

namespace CameraRoll

/-- One of the two places where files can be. -/
inductive Location where
  /-- The private store, which always exists. -/
  | internal
  /-- The directory that the user sees, if there is one. -/
  | external
  deriving DecidableEq, Repr

def Location.text : Location → String
  | .internal => "internal"
  | .external => "external"

/-- A file in one of the locations. -/
structure StoredFile where
  location : Location
  name : String
  size : Nat
  deriving DecidableEq, Repr

namespace StoredFile

/-- A listed file of a location. -/
def ofInfo (location : Location) (info : FileInfo) : StoredFile := ⟨location, info.name, info.size⟩

/-- What the file is, by its name. -/
def kind (file : StoredFile) : Naming.NameKind := Naming.kindOf file.name

/-- Whether the file is a thumbnail, by its name. -/
def isThumbnail (file : StoredFile) : Bool := file.kind.isThumbnail

/-- Files are the same if they are in the same place, whatever their sizes. -/
def isSame (a b : StoredFile) : Bool := a.location = b.location && a.name = b.name

end StoredFile

end CameraRoll
