/-!
Blocks of eight by eight numbers and the cosine transforms on them, in whole-number arithmetic.
Fractions are numbers of thirteen binary places going forward and of twelve going back.
-/

namespace CameraRoll.Jpeg

/-- Eight numbers: a row or a column of a block. -/
structure Octet where
  (n0 n1 n2 n3 n4 n5 n6 n7 : Int)
  deriving Inhabited

/-- The number at a place; the last one for every place behind. -/
def Octet.at (o : Octet) : Nat → Int
  | 0 => o.n0
  | 1 => o.n1
  | 2 => o.n2
  | 3 => o.n3
  | 4 => o.n4
  | 5 => o.n5
  | 6 => o.n6
  | _ => o.n7

/-- Eight rows of eight numbers. -/
abbrev Block : Type := Vector Int 64

namespace Block

/-- The first number: among frequencies the one that stands for the mean. -/
def mean (b : Block) : Int := b.get 0

/-- The frequencies of a block that is the same everywhere. -/
def flat (mean : Int) : Block :=
  Vector.ofFn fun k : Fin 64 => if k = 0 then mean else 0

/-- A row of the block. -/
def row (b : Block) (i : Fin 8) : Octet :=
  ⟨b[8 * i.val], b[8 * i.val + 1], b[8 * i.val + 2], b[8 * i.val + 3], b[8 * i.val + 4],
    b[8 * i.val + 5], b[8 * i.val + 6], b[8 * i.val + 7]⟩

def transpose (b : Block) : Block := Vector.ofFn fun k : Fin 64 => b[8 * (k.val % 8) + k.val / 8]

/-- Every row changed, and rows and columns exchanged. -/
def turned (f : Octet → Octet) (b : Block) : Block :=
  let rows : Vector Octet 8 := Vector.ofFn fun i => f (b.row i)
  Vector.ofFn fun k : Fin 64 => (rows[k.val % 8]).at (k.val / 8)

/-- The places of a block in the order in which they are sent, from low to high frequencies. -/
def zigzag : List (Fin 64) :=
  [0, 1, 8, 16, 9, 2, 3, 10, 17, 24, 32, 25, 18, 11, 4, 5, 12, 19, 26, 33, 40, 48, 41, 34, 27, 20,
    13, 6, 7, 14, 21, 28, 35, 42, 49, 56, 57, 50, 43, 36, 29, 22, 15, 23, 30, 37, 44, 51, 58, 59,
    52, 45, 38, 31, 39, 46, 53, 60, 61, 54, 47, 55, 62, 63]

end Block

namespace Octet

/-- The forward transform. `whole` scales what needs no fractions; the rest loses `shift` binary
places, rounded. -/
def forward (whole : Int → Int) (shift : Nat) (o : Octet) : Octet :=
  let half : Int := 1 <<< (shift - 1)
  let s0 := o.n0 + o.n7
  let s1 := o.n1 + o.n6
  let s2 := o.n2 + o.n5
  let s3 := o.n3 + o.n4
  let outer := s0 - s3
  let inner := s1 - s2
  let turn := (outer + inner) * 4433 + half
  let d0 := o.n0 - o.n7
  let d1 := o.n1 - o.n6
  let d2 := o.n2 - o.n5
  let d3 := o.n3 - o.n4
  let both := (d0 + d2 + (d1 + d3)) * 9633 + half
  let even := (d0 + d2) * -3196 + both
  let odd := (d1 + d3) * -16069 + both
  let far := (d0 + d3) * -7373
  let near := (d1 + d2) * -20995
  { n0 := whole (s0 + s3 + (s1 + s2))
    n1 := (d0 * 12299 + far + even) >>> shift
    n2 := (turn + outer * 6270) >>> shift
    n3 := (d1 * 25172 + near + odd) >>> shift
    n4 := whole (s0 + s3 - (s1 + s2))
    n5 := (d2 * 16819 + near + even) >>> shift
    n6 := (turn - inner * 15137) >>> shift
    n7 := (d3 * 2446 + far + odd) >>> shift }

/-- The inverse transform. The result loses `shift` binary places after `offset` is added. -/
def inverse (offset : Int) (shift : Nat) (o : Octet) : Octet :=
  let turn := (o.n2 + o.n6) * 2217
  let low := turn + o.n6 * -7567
  let high := turn + o.n2 * 3135
  let sum := (o.n0 + o.n4) * 4096
  let difference := (o.n0 - o.n4) * 4096
  let e0 := sum + high + offset
  let e1 := difference + low + offset
  let e2 := difference - low + offset
  let e3 := sum - high + offset
  let p1 := o.n7 + o.n1
  let p2 := o.n5 + o.n3
  let p3 := o.n7 + o.n3
  let p4 := o.n5 + o.n1
  let p5 := (p3 + p4) * 4816
  let q1 := p5 + p1 * -3685
  let q2 := p5 + p2 * -10497
  let q3 := p3 * -8034
  let q4 := p4 * -1597
  let t0 := o.n7 * 1223 + q1 + q3
  let t1 := o.n5 * 8410 + q2 + q4
  let t2 := o.n3 * 12586 + q2 + q3
  let t3 := o.n1 * 6149 + q1 + q4
  { n0 := (e0 + t3) >>> shift
    n1 := (e1 + t2) >>> shift
    n2 := (e2 + t1) >>> shift
    n3 := (e3 + t0) >>> shift
    n4 := (e3 - t0) >>> shift
    n5 := (e2 - t1) >>> shift
    n6 := (e1 - t2) >>> shift
    n7 := (e0 - t3) >>> shift }

end Octet

/-- The frequencies in a block of samples around zero, eight times too large: rows first, then
columns. -/
def Block.frequencies (b : Block) : Block :=
  (b.turned (Octet.forward (· * 4) 11)).turned (Octet.forward (fun n => (n + 2) >>> (2 : Nat)) 15)

/-- A number as an amount of light in one byte. -/
def clampToByte (n : Int) : Int := max 0 (min 255 n)

/-- The samples that frequencies make, from 0 to 255: columns first, then rows. Where there is only a
mean it is rounded on its own. -/
def Block.samples (b : Block) : Block :=
  if b.toList.tail.all (· == 0) then
    Vector.replicate 64 (clampToByte ((b.mean + 4 + 1024) >>> (3 : Nat)))
  else
    let columnsDone := b.transpose.turned (Octet.inverse 512 10)
    let done := columnsDone.turned (Octet.inverse (512 + 65536 + (128 <<< 17)) 17)
    done.transpose.map clampToByte

end CameraRoll.Jpeg
