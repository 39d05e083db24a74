import CameraRoll.Text.Numeral

/-!
The shortest decimal numeral that is read back as a given floating-point number. A number is taken
apart into `significand * 2 ^ exponent`; all reals nearer to it than to its neighbours are read back
as it. Of the grids of multiples of powers of ten the coarsest is taken that has a point among those
reals, and on it the point nearest to the number.
-/

namespace CameraRoll.Text

/-- A positive floating-point number as quarters of its last place, `quarters * 2 ^ exponent`,
with the reals that are read back as it: from `low` to `high` quarters, the ends themselves only if
`closed`. -/
structure RoundingInterval where
  quarters : Nat
  low : Nat
  high : Nat
  exponent : Int
  closed : Bool
  deriving DecidableEq, Repr

/-- The bit above the 52 bits of a double's fraction. -/
def hiddenBit : Nat := 0x10000000000000

/-- The interval around the positive double with these bits. Below a power of two the neighbour is
nearer than above it. -/
def RoundingInterval.ofBits (bits : Nat) : RoundingInterval :=
  let fraction := bits % hiddenBit
  let field := bits / hiddenBit % 2048
  let significand := if field = 0 then fraction else fraction + hiddenBit
  let below := if fraction = 0 && field > 1 then 1 else 2
  ⟨4 * significand, 4 * significand - below, 4 * significand + 2, (max field 1 : Nat) - 1077,
    significand % 2 = 0⟩

/-- `n * 2 ^ e * 10 ^ t` as a fraction, for exponents of either sign. -/
def scaledFraction (n : Nat) (e t : Int) : Nat × Nat :=
  (n * Nat.pow 2 e.toNat * Nat.pow 10 t.toNat, Nat.pow 2 (-e).toNat * Nat.pow 10 (-t).toNat)

/-- A decimal number `digits * 10 ^ exponent`. -/
structure DecimalNumber where
  digits : Nat
  exponent : Int
  deriving DecidableEq, Repr

/-- Whether `point * 10 ^ grid` is in the interval. -/
def RoundingInterval.holds (interval : RoundingInterval) (grid : Int) (point : Nat) : Bool :=
  let (low, unit) := scaledFraction interval.low interval.exponent (-grid)
  let (high, _) := scaledFraction interval.high interval.exponent (-grid)
  if interval.closed then low ≤ point * unit && point * unit ≤ high
  else low < point * unit && point * unit < high

/-- The point of a grid in the interval that is nearest to the number, if there is one. Of two
equally near points the even one is taken. -/
def RoundingInterval.pointOn? (interval : RoundingInterval) (grid : Int) : Option Nat :=
  let (value, unit) := scaledFraction interval.quarters interval.exponent (-grid)
  let point := value / unit
  let below := interval.holds grid point && point != 0
  let above := interval.holds grid (point + 1)
  let twice := 2 * (value % unit)
  if below && above then
    some (if twice < unit || (twice = unit && point % 2 = 0) then point else point + 1)
  else if below then some point
  else if above then some (point + 1)
  else none

/-- The point on the coarsest grid that has one, looking at `count` grids from `grid` down. -/
def RoundingInterval.coarsest? (interval : RoundingInterval) :
    (count : Nat) → (grid : Int) → Option DecimalNumber
  | 0, _ => none
  | count + 1, grid =>
    match interval.pointOn? grid with
    | some point => some ⟨point, grid⟩
    | none => interval.coarsest? count (grid - 1)

/-- Exponent of the coarsest grid that can be needed. -/
def coarsestGrid : Int := 308

/-- Number of grids that can be needed: down to the last place of the smallest number. -/
def gridCount : Nat := 633

/-- The shortest decimal of the positive, finite double with these bits. -/
def shortestDecimal (bits : Nat) : DecimalNumber :=
  ((RoundingInterval.ofBits bits).coarsest? gridCount coarsestGrid).getD ⟨0, 0⟩

/-- How decimals are written: positionally if the first digit stands at most `places` before and
at most `zeros` zeros behind the point, else with an exponent. -/
structure DecimalStyle where
  places : Int
  zeros : Int
  /-- What stands in front of an exponent that is not negative. -/
  sign : List Char

/-- A decimal with an exponent. -/
def scientific (style : DecimalStyle) (digits : List Char) (exponent : Int) : List Char :=
  let mantissa := match digits with
    | first :: second :: rest => first :: '.' :: second :: rest
    | short => short
  mantissa ++ 'e' :: (if exponent < 0 then ['-'] else style.sign) ++ numeral exponent.natAbs

/-- A decimal in a style. A positional one has at least one digit behind the point. -/
def DecimalNumber.text (style : DecimalStyle) (number : DecimalNumber) : List Char :=
  let digits := numeral number.digits
  let front : Int := digits.length + number.exponent
  if 0 ≤ number.exponent && front ≤ style.places then
    digits ++ List.replicate number.exponent.toNat '0' ++ ['.', '0']
  else if 0 < front && front ≤ style.places then
    digits.take front.toNat ++ '.' :: digits.drop front.toNat
  else if -style.zeros ≤ front && front ≤ 0 then
    '0' :: '.' :: List.replicate (-front).toNat '0' ++ digits
  else scientific style digits (front - 1)

/-- A finite floating-point number in a style. -/
def floatText (style : DecimalStyle) (x : Float) : List Char :=
  let bits := x.toBits.toNat
  let sign := if bits ≤ maxSigned64 then [] else ['-']
  let magnitude := bits % (maxSigned64 + 1)
  sign ++ if magnitude = 0 then ['0', '.', '0'] else (shortestDecimal magnitude).text style

end CameraRoll.Text
