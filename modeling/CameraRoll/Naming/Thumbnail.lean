import CameraRoll.Naming.Canonical

/-!
The name of the thumbnail that belongs to a picture.
-/

namespace CameraRoll.Naming

/-- The text before its last dot; all of it if it has none. -/
def stem (name : List Char) : List Char :=
  if '.' ∈ name then ((name.reverse.dropWhile (· != '.')).drop 1).reverse else name

/-- The characters of the thumbnail's name. -/
def thumbnailChars (name : List Char) : List Char :=
  stem (thumbnailStart.toList ++ name) ++ imageExtension.toList

/-- The name of the thumbnail of the picture called `name`. -/
def thumbnailName (name : String) : String := String.ofList (thumbnailChars name.toList)

end CameraRoll.Naming
