/-!
The two kinds of media a picture can hold.
-/

namespace CameraRoll

/-- A still or a moving picture. -/
inductive MediaKind where
  | image
  | video
  deriving DecidableEq, Repr

/-- Whether the medium is a video. -/
def MediaKind.isVideo : MediaKind → Bool
  | .image => false
  | .video => true

def MediaKind.text : MediaKind → String
  | .image => "image"
  | .video => "video"

end CameraRoll
