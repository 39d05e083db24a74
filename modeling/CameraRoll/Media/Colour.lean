import CameraRoll.Media.Raster

/-!
Pixels as amounts of red, green and blue light, and the images that decoding gives.
-/

namespace CameraRoll

/-- Amounts of light, each from zero to the greatest amount that the image knows. -/
structure Colour where
  red : UInt16
  green : UInt16
  blue : UInt16
  deriving DecidableEq, Repr, Inhabited

/-- Equal amounts of all three. -/
def Colour.grey (light : UInt16) : Colour := ⟨light, light, light⟩

/-- A decoded image. What it says about transparency is left out. -/
structure Image where
  /-- Whether the amounts of light take two bytes instead of one. -/
  deep : Bool
  raster : Raster Colour

/-- The greatest amount of light. -/
def Image.fullLight (image : Image) : Nat := if image.deep then 0xffff else 0xff

/-- An amount of light in two bytes as the nearest amount in one. -/
def lightInByte (light : UInt16) : UInt16 := UInt16.ofNat ((light.toNat + 128) / 257)

/-- The raster with amounts of light in one byte. -/
def Image.shallow (image : Image) : Raster Colour :=
  if image.deep then
    image.raster.map fun c => ⟨lightInByte c.red, lightInByte c.green, lightInByte c.blue⟩
  else image.raster

end CameraRoll
