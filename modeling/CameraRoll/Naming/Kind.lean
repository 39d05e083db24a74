import CameraRoll.Media.Kind

/-!
What the beginning of a file's name says about the file.
-/

namespace CameraRoll.Naming

/-- Every image's name starts so. -/
def imageStart : String := "IMG_"

/-- Every video's name starts so. -/
def videoStart : String := "VID_"

/-- Every thumbnail's name starts so. -/
def thumbnailStart : String := "thumb-"

/-- Class of a file by the start of its name. -/
inductive NameKind where
  | image
  | video
  | thumbnail
  /-- Anything else; pictures with names of the oldest scheme are of this class. -/
  | other
  deriving DecidableEq, Repr

/-- The class of a name given as characters. -/
def kindOfChars (name : List Char) : NameKind :=
  if imageStart.toList.isPrefixOf name then .image
  else if videoStart.toList.isPrefixOf name then .video
  else if thumbnailStart.toList.isPrefixOf name then .thumbnail
  else .other

/-- The class of a name. -/
def kindOf (name : String) : NameKind := kindOfChars name.toList

/-- Whether the name is that of a thumbnail. -/
def NameKind.isThumbnail : NameKind → Bool
  | .thumbnail => true
  | _ => false

/-- The name has the start of an image or of a video. -/
def NameKind.isPrimary : NameKind → Bool
  | .image | .video => true
  | _ => false

/-- Only the start of a video marks a video. -/
def NameKind.mediaKind : NameKind → MediaKind
  | .video => .video
  | _ => .image

end CameraRoll.Naming
