import CameraRoll.Media.Raster

/-!
Orientations: how a picture has to be moved to stand upright.
-/

namespace CameraRoll

/-- How a stored picture has to be moved to stand upright. -/
inductive Orientation where
  /-- Left and right are exchanged. -/
  | mirrored
  | upsideDown
  /-- Top and bottom are exchanged. -/
  | flipped
  /-- Rows and columns are exchanged. -/
  | transposed
  /-- The picture lies on its left side and needs a quarter turn clockwise. -/
  | leftward
  /-- Rows and columns are exchanged, both counted from the end. -/
  | transversed
  /-- The picture lies on its right side and needs a quarter turn against the clock. -/
  | rightward
  deriving DecidableEq, Repr

/-- The orientation that a number in a file stands for; a picture with the number 1, or with one
that has no meaning, is shown as it is. -/
def Orientation.ofNumber? : Nat → Option Orientation
  | 2 => some .mirrored
  | 3 => some .upsideDown
  | 4 => some .flipped
  | 5 => some .transposed
  | 6 => some .leftward
  | 7 => some .transversed
  | 8 => some .rightward
  | _ => none

def Raster.upright {α : Type} (r : Raster α) : Orientation → Raster α
  | .mirrored => r.flipHorizontal
  | .upsideDown => r.rotateHalf
  | .flipped => r.flipVertical
  | .transposed => r.rotateQuarter.flipHorizontal
  | .leftward => r.rotateQuarter
  | .transversed => r.rotateThreeQuarters.flipHorizontal
  | .rightward => r.rotateThreeQuarters

end CameraRoll
