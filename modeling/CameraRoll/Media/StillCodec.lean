import CameraRoll.Media.Codec
import CameraRoll.Media.Exif
import CameraRoll.Media.Jpeg.Decode
import CameraRoll.Media.Jpeg.Encode
import CameraRoll.Media.Orientation
import CameraRoll.Media.Png
import CameraRoll.Media.Resample

/-!
The codec for still pictures. What it does with picture files is left to libraries, which are
parameters (`StillTools`); those of the program are `stillTools`.
-/

namespace CameraRoll

/-- The libraries that a codec for still pictures is built on. Which files can be read, what is read
from them and what files look like are up to them. -/
structure StillTools where
  /-- The image in a file. -/
  decode? : (file : ByteArray) → Option Image
  /-- The orientation number that a file carries, whatever its value. -/
  orientationNumber? : (file : ByteArray) → Option Nat
  /-- The image in another size. -/
  resized : (image : Image) → (width height : Nat) → Image
  /-- The file for a raster with amounts of light in one byte. -/
  encode? : (raster : Raster Colour) → Option ByteArray

/-- The height, in whole pixels and at least one, that keeps the shape of a picture in a new
width. -/
def scaledHeight (sourceWidth sourceHeight width : Nat) : Except MediaError Nat :=
  if sourceWidth = 0 ∨ sourceHeight = 0 then .error .empty
  else
    let ratio := sourceHeight.toFloat / sourceWidth.toFloat
    .ok (max 1 (width.toFloat * ratio).round.toUInt32.toNat)

namespace StillTools

variable (tools : StillTools)

/-- Writes the file for a raster. -/
def write (raster : Raster Colour) : Except MediaError ByteArray :=
  match tools.encode? raster with
  | some file => .ok file
  | none => .error .unencodable

/-- A thumbnail of a picture. Sides that cannot be written are refused before anything is scaled. -/
def thumbnail (media : ByteArray) (kind : MediaKind) (width : Nat) :
    Except MediaError ByteArray :=
  if kind.isVideo then .error (.unsupported kind.text)
  else match tools.decode? media with
    | none => .error .undecodable
    | some image => do
      let height ← scaledHeight image.raster.width image.raster.height width
      if width = 0 ∨ Jpeg.longestSide < width ∨ Jpeg.longestSide < height then
        throw .unencodable
      tools.write (tools.resized image width height).shallow

/-- The picture the right way up. One that carries no orientation to correct stays as it is, so that
it loses nothing. -/
def orient (media : ByteArray) : Except MediaError ByteArray :=
  match (tools.orientationNumber? media).bind Orientation.ofNumber? with
  | none => .ok media
  | some orientation =>
    match tools.decode? media with
    | none => .error .undecodable
    | some image => tools.write (image.shallow.upright orientation)

/-- The codec that is built on these libraries. -/
def codec : Codec where
  supports kind := !kind.isVideo
  thumbnail media kind width :=
    match tools.thumbnail media kind width with
    | .ok content => .made content
    | .error e => .refused e
  orient := tools.orient

end StillTools

/-! ### The program -/

/-- The image in a PNG file, or in a JPEG file that `Jpeg.decode?` can read. -/
def Image.ofFile? (file : ByteArray) : Option Image :=
  if startsWith file Png.signature then Png.decode? file else Jpeg.decode? file

/-- The quality with which files are written. -/
def writtenQuality : Nat := 90

/-- What the program uses: readers of its own for the files that it knows, and a writer of JPEG
files. -/
def stillTools : StillTools where
  decode? := Image.ofFile?
  orientationNumber? := orientationNumber?
  resized := Image.resized
  encode? := Jpeg.encode? writtenQuality

namespace StillCodec

def thumbnail : ByteArray → MediaKind → Nat → Except MediaError ByteArray := stillTools.thumbnail

def orient : ByteArray → Except MediaError ByteArray := stillTools.orient

end StillCodec

/-- The codec for still pictures. -/
def stillCodec : Codec := stillTools.codec

end CameraRoll
