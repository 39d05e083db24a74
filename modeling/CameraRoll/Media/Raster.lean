/-!
Rasters: rectangles of pixels. Flips and rotations are given by where each pixel of the result comes
from; `get_generate` says that reading a generated raster gives the pixel it was generated with.
-/

namespace CameraRoll

/-- A rectangle of pixels, row by row from the top, each row from the left. -/
structure Raster (α : Type) where
  width : Nat
  height : Nat
  pixels : Array α
  size_pixels : pixels.size = width * height

namespace Raster

variable {α β : Type}

/-- A point inside a rectangle has a place among its pixels. -/
theorem place_lt {width height x y : Nat} (hx : x < width) (hy : y < height) :
    y * width + x < width * height := by
  have row : (y + 1) * width ≤ height * width := Nat.mul_le_mul_right width hy
  rw [Nat.mul_comm height width, Nat.add_mul, Nat.one_mul] at row
  omega

/-- The pixel in column `x` of row `y`. -/
def get (r : Raster α) (x y : Nat) (hx : x < r.width) (hy : y < r.height) : α :=
  have inside : y * r.width + x < r.pixels.size := r.size_pixels ▸ place_lt hx hy
  r.pixels[y * r.width + x]

/-- The pixel in column `x` of row `y`, if it is inside. -/
def get? (r : Raster α) (x y : Nat) : Option α :=
  if h : x < r.width ∧ y < r.height then some (r.get x y h.1 h.2) else none

/-- The raster whose pixels a function gives. -/
def generate (width height : Nat) (f : (x y : Nat) → x < width → y < height → α) : Raster α where
  width := width
  height := height
  pixels := Array.ofFn fun i : Fin (width * height) =>
    f (i.val % width) (i.val / width)
      (Nat.mod_lt _ (Nat.pos_of_mul_pos_right (Nat.lt_of_le_of_lt (Nat.zero_le _) i.isLt)))
      (Nat.div_lt_of_lt_mul i.isLt)
  size_pixels := Array.size_ofFn

@[simp] theorem width_generate (w h : Nat) (f : (x y : Nat) → x < w → y < h → α) :
    (generate w h f).width = w := rfl

@[simp] theorem height_generate (w h : Nat) (f : (x y : Nat) → x < w → y < h → α) :
    (generate w h f).height = h := rfl

theorem get_generate {w h : Nat} (f : (x y : Nat) → x < w → y < h → α) {x y : Nat}
    (hx : x < w) (hy : y < h) : (generate w h f).get x y hx hy = f x y hx hy := by
  have moved : ∀ a b (ha : a < w) (hb : b < h), a = x → b = y → f a b ha hb = f x y hx hy := by
    rintro _ _ _ _ rfl rfl
    rfl
  simp only [get, generate, Array.getElem_ofFn]
  apply moved
  · rw [Nat.mul_comm, Nat.mul_add_mod, Nat.mod_eq_of_lt hx]
  · rw [Nat.mul_comm, Nat.mul_add_div (by omega), Nat.div_eq_of_lt hx, Nat.add_zero]

/-- Every pixel changed on its own. -/
def map (f : α → β) (r : Raster α) : Raster β where
  width := r.width
  height := r.height
  pixels := r.pixels.map f
  size_pixels := by simp [r.size_pixels]

def flipHorizontal (r : Raster α) : Raster α :=
  generate r.width r.height fun x y hx hy => r.get (r.width - 1 - x) y (by omega) hy

def flipVertical (r : Raster α) : Raster α :=
  generate r.width r.height fun x y hx hy => r.get x (r.height - 1 - y) hx (by omega)

def rotateQuarter (r : Raster α) : Raster α :=
  generate r.height r.width fun x y hx hy => r.get y (r.height - 1 - x) hy (by omega)

def rotateHalf (r : Raster α) : Raster α :=
  generate r.width r.height fun x y hx hy =>
    r.get (r.width - 1 - x) (r.height - 1 - y) (by omega) (by omega)

/-- A quarter turn against the clock. -/
def rotateThreeQuarters (r : Raster α) : Raster α :=
  generate r.height r.width fun x y hx hy => r.get (r.width - 1 - y) x (by omega) hx

end Raster

end CameraRoll
