/-!
Content types by file name.
-/

namespace CameraRoll

/-- The characters behind the last dot; none if there is no dot. -/
def lastExtension (name : List Char) : Option (List Char) :=
  if '.' ∈ name then some (name.reverse.takeWhile (· != '.')).reverse else none

/-- The content type of a file by the extension of its name, in which case does not matter. -/
def contentType (name : String) : String :=
  match (lastExtension name.toList).map fun s => String.ofList (s.map Char.toLower) with
  | some "jpg" | some "jpeg" => "image/jpeg"
  | some "png" => "image/png"
  | some "mkv" => "video/x-matroska"
  | some "webm" => "video/webm"
  | _ => "application/octet-stream"

end CameraRoll
