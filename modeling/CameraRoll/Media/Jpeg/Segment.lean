import CameraRoll.Media.Jpeg.Table

/-!
What stands in front of a scan: the shape of the image, the divisors and the codes.
-/

namespace CameraRoll.Jpeg

/-- A component of the image: brightness or a colour difference. -/
structure Component where
  number : UInt8
  /-- Blocks of this component across and down in the smallest unit that is sent. -/
  across : Nat
  down : Nat
  /-- The number of its table of divisors. -/
  divisors : Nat
  deriving Repr

/-- The shape of an image. -/
structure Frame where
  width : Nat
  height : Nat
  components : List Component
  deriving Repr

namespace Frame

/-- The most columns of blocks that a component has in a unit. -/
def across (f : Frame) : Nat := (f.components.map (·.across)).foldl max 1

/-- The most rows of blocks that a component has in a unit. -/
def down (f : Frame) : Nat := (f.components.map (·.down)).foldl max 1

/-- Units in a row of the picture. -/
def unitsAcross (f : Frame) : Nat := (f.width + 8 * f.across - 1) / (8 * f.across)

/-- Units in a column of the picture. -/
def unitsDown (f : Frame) : Nat := (f.height + 8 * f.down - 1) / (8 * f.down)

end Frame

/-- What the segments before a scan have set. -/
structure Preamble where
  divisors : List (Nat × Block)
  means : List (Nat × PrefixCode)
  waves : List (Nat × PrefixCode)
  /-- Units between two restarts of the scan; zero if it is never restarted. -/
  interval : Nat
  frame : Option Frame

/-- The number in two bytes. -/
def pair (high low : UInt8) : Nat := 256 * high.toNat + low.toNat

/-- The block with these numbers, given from low to high frequencies. -/
def blockOf (numbers : List Nat) : Block :=
  (Block.zigzag.zip numbers).foldl (fun b (place, n) => b.set place n) (Vector.replicate 64 0)

/-- Numbers of two bytes each. -/
def pairs : List UInt8 → List Nat
  | high :: low :: rest => pair high low :: pairs rest
  | _ => []

/-- The tables of divisors in a segment. -/
def divisors? (content : List UInt8) : Option (List (Nat × Block)) :=
  match content with
  | [] => some []
  | first :: rest =>
    let number := first.toNat % 16
    let size := if first.toNat / 16 = 0 then 64 else 128
    let numbers := rest.take size
    if numbers.length < size ∨ 1 < first.toNat / 16 ∨ 3 < number then none
    else
      let table := blockOf (if size = 64 then numbers.map UInt8.toNat else pairs numbers)
      (divisors? (rest.drop size)).map ((number, table) :: ·)
termination_by content.length

/-- The codes in a segment, each with its number, and whether it is for means. -/
def codes? (content : List UInt8) : Option (List (Bool × Nat × PrefixCode)) :=
  match content with
  | [] => some []
  | first :: rest =>
    let counts := (rest.take 16).map UInt8.toNat
    let total := counts.foldl (· + ·) 0
    let symbols := (rest.drop 16).take total
    if counts.length < 16 ∨ symbols.length < total ∨ 256 < total ∨ 1 < first.toNat / 16 ∨
        3 < first.toNat % 16 ∨ PrefixCode.unused? counts 1 = none then none
    else
      let code : PrefixCode := ⟨counts, (symbols.map UInt8.toNat).toArray⟩
      (codes? (rest.drop (16 + total))).map
        ((first.toNat / 16 = 0, first.toNat % 16, code) :: ·)
termination_by content.length

/-- The components that a segment lists. -/
def components? : List UInt8 → Option (List Component)
  | [] => some []
  | number :: sampling :: divisors :: rest => do
    let across := sampling.toNat / 16
    let down := sampling.toNat % 16
    if across = 0 ∨ down = 0 ∨ 4 < across ∨ 4 < down then none
    let others ← components? rest
    return ⟨number, across, down, divisors.toNat⟩ :: others
  | _ => none

/-- The shape that a segment gives: grey, or brightness and two colour differences. -/
def frame? (content : List UInt8) : Option Frame :=
  match content with
  | precision :: h1 :: h0 :: w1 :: w0 :: count :: rest => do
    let width := pair w1 w0
    let height := pair h1 h0
    let components ← components? (rest.take (3 * count.toNat))
    if precision ≠ 8 ∨ width = 0 ∨ height = 0 ∨ components.length ≠ count.toNat ∨
        (count ≠ 1 ∧ count ≠ 3) then none
    else return ⟨width, height, components⟩
  | _ => none

/-- The settings after a segment of a kind; none if the segment makes the file unreadable. Segments
of other kinds set nothing. -/
def Preamble.after? (s : Preamble) (kind : UInt8) (content : List UInt8) : Option Preamble :=
  if kind = 0xdb then (divisors? content).map fun tables =>
    { s with divisors := tables.reverse ++ s.divisors }
  else if kind = 0xc4 then (codes? content).map fun tables =>
    let tables := tables.reverse
    { s with
      means := tables.filterMap (fun (mean, t) => if mean then some t else none) ++ s.means
      waves := tables.filterMap (fun (mean, t) => if mean then none else some t) ++ s.waves }
  else if kind = 0xdd then match content with
    | [high, low] => some { s with interval := pair high low }
    | _ => none
  else if kind = 0xc0 ∨ kind = 0xc1 then
    if s.frame.isSome then none
    else (frame? content).map fun frame => { s with frame := some frame }
  else if 0xc2 ≤ kind ∧ kind ≤ 0xcf ∧ kind ≠ 0xc8 ∧ kind ≠ 0xcc then none
  else some s

def Preamble.none : Preamble := ⟨[], [], [], 0, Option.none⟩

end CameraRoll.Jpeg
