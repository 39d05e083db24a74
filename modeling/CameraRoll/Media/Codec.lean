import CameraRoll.Media.Error
import CameraRoll.Media.Kind

/-!
What the catalog asks of a codec. Both operations are functions of the bytes alone.
-/

namespace CameraRoll

/-- What comes of a request for a thumbnail. -/
inductive ThumbnailOutcome where
  | made (content : ByteArray)
  | refused (error : MediaError)
  /-- The codec broke down, and with it the task that asked. -/
  | crashed

/-- The operations of a codec. -/
structure Codec where
  /-- Whether thumbnails of this kind of media can be made at all. -/
  supports : MediaKind → Bool
  /-- A thumbnail of the given width. -/
  thumbnail : (media : ByteArray) → (kind : MediaKind) → (width : Nat) → ThumbnailOutcome
  /-- The image the right way up; the same bytes if it is so already. -/
  orient : (image : ByteArray) → Except MediaError ByteArray

/-- Width of thumbnails where none is asked for. -/
def defaultThumbnailWidth : Nat := 480

end CameraRoll
