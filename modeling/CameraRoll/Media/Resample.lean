import CameraRoll.Media.Colour

/-!
Scaling of images: every pixel of the result is a weighted mean of the pixels around its place in the
source. The weight falls off in a straight line with the distance, over one pixel of the coarser of
the two images. Columns are scaled first, and kept in single precision, then rows.
-/

namespace CameraRoll

/-- Amounts of light while they are being added up. -/
structure Light where
  red : Float
  green : Float
  blue : Float
  deriving Inhabited

namespace Light

def zero : Light := ⟨0, 0, 0⟩

/-- Adds an amount of light that has a weight. -/
def add (sum : Light) (weight : Float) (light : Light) : Light :=
  ⟨sum.red + light.red * weight, sum.green + light.green * weight, sum.blue + light.blue * weight⟩

/-- The light of a colour. -/
def ofColour (c : Colour) : Light :=
  ⟨c.red.toFloat, c.green.toFloat, c.blue.toFloat⟩

/-- The amounts in single precision. -/
def single (l : Light) : Light :=
  ⟨l.red.toFloat32.toFloat, l.green.toFloat32.toFloat, l.blue.toFloat32.toFloat⟩

/-- The nearest whole amount, which is not more than full light. -/
def whole (full light : Float) : UInt16 :=
  (if light < 0 then 0 else if full < light then full else light).round.toUInt16

/-- The colour of light, each amount rounded and at most `full`. -/
def toColour (full : Float) (l : Light) : Colour :=
  ⟨whole full l.red, whole full l.green, whole full l.blue⟩

end Light

/-- A row of neighbouring source places and their weights. -/
structure Window where
  first : Nat
  weights : Array Float
  deriving Inhabited

namespace Window

/-- The weight of a place at a distance. -/
def fallOff (distance : Float) : Float :=
  if distance.abs < 1 then 1 - distance.abs else 0

/-- The window of the place `i` of `target` places over `source` places. -/
def ofPlace (source target i : Nat) : Window :=
  let ratio := source.toFloat / target.toFloat
  let reach : Float := if ratio < 1 then 1 else ratio
  let centre := (i.toFloat + 0.5) * source.toFloat / target.toFloat
  let first := min (centre - reach).floor.toUInt64.toNat (source - 1)
  let stop := max (min (centre + reach).ceil.toUInt64.toNat source) (first + 1)
  let weights := Array.ofFn fun k : Fin (stop - first) =>
    fallOff (((first + k.val).toFloat - (centre - 0.5)) / reach)
  let share := 1 / weights.foldl (· + ·) 0
  { first, weights := weights.map (· * share) }

/-- The weighted mean of what stands at the places of a window. -/
def mean (window : Window) (light : Nat → Light) : Light :=
  window.weights.size.fold
    (fun i inside sum => sum.add window.weights[i] (light (window.first + i))) Light.zero

end Window

/-- The windows of all places. -/
def windows (source target : Nat) : Vector Window target :=
  Vector.ofFn fun i => Window.ofPlace source target i.val

/-- The image in another size; the same if that is its size. -/
def Image.resized (image : Image) (width height : Nat) : Image :=
  let r := image.raster
  if r.width = width ∧ r.height = height then image
  else
    let rows := windows r.height height
    let columns := windows r.width width
    let full := image.fullLight.toFloat
    let tall : Raster Light := Raster.generate r.width height fun x y _ _ =>
      (rows[y].mean fun row => ((r.get? x row).map Light.ofColour).getD Light.zero).single
    { image with
      raster := Raster.generate width height fun x y _ _ =>
        (columns[x].mean fun column => (tall.get? column y).getD Light.zero).toColour full }

end CameraRoll
