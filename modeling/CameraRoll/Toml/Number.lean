import CameraRoll.Calendar.Date
import CameraRoll.Text.Digit
import CameraRoll.Text.Hex
import CameraRoll.Text.Numeral
import CameraRoll.Text.Reader

/-!
Numbers, dates and times in TOML.
-/

namespace CameraRoll.Toml

open CameraRoll.Text

/-- A plus or a minus. -/
def isSign (c : Char) : Bool := c == '+' || c == '-'

/-- The sign at the front, as whether it is a minus. -/
def signAt (s : List Char) : Bool × List Char :=
  let (sign, rest) := optionalChar isSign s
  (sign == some '-', rest)

/-- A whole number without zeros in front. -/
def wholeAt : Reader (List Char)
  | '0' :: s => some (['0'], s)
  | s => groupedDigits isAsciiDigit s

/-- Smallest and largest whole number. -/
def isWhole64 (n : Int) : Bool := -(maxSigned64 : Int) - 1 ≤ n && n ≤ maxSigned64

/-- Digits of a base, as a number of 64 bits. -/
def basedAt (base : Nat) (digit : Char → Bool) (s : List Char) : Option (Int × List Char) := do
  let (digits, rest) ← groupedDigits digit s
  let n := numberInBase base digits
  if isWhole64 n then return (n, rest) else none

/-- A whole number: decimal with an optional sign, or hexadecimal, octal or binary. -/
def integerAt : Reader Int
  | '0' :: 'x' :: s => basedAt 16 isHexDigit s
  | '0' :: 'o' :: s => basedAt 8 (fun c => '0' ≤ c && c ≤ '7') s
  | '0' :: 'b' :: s => basedAt 2 (fun c => c = '0' || c = '1') s
  | s => do
    let (negative, s) := signAt s
    let (digits, rest) ← wholeAt s
    let n : Int := numberInBase 10 digits
    let n := if negative then -n else n
    if isWhole64 n then return (n, rest) else none

def fractionAt : Reader (List Char)
  | '.' :: s => groupedDigits isAsciiDigit s
  | _ => none

/-- An `e`, an optional sign and digits. -/
def exponentAt : Reader Int
  | c :: s =>
    if c = 'e' || c = 'E' then do
      let (negative, s) := signAt s
      let (digits, rest) ← groupedDigits isAsciiDigit s
      let n : Int := numberInBase 10 digits
      return (if negative then -n else n, rest)
    else none
  | [] => none

/-- Whether `significand * 10 ^ exponent` is so large that the nearest double is infinite. -/
def isHuge (significand : Nat) (exponent : Int) : Bool :=
  let size : Int := (numeral significand).length + exponent
  if significand = 0 || size < 300 then false
  else if 320 < size then true
  else
    let bound := Nat.pow 2 1024 - Nat.pow 2 970
    bound * Nat.pow 10 (-exponent).toNat ≤ significand * Nat.pow 10 exponent.toNat

/-- A number with a fraction, an exponent, or both. Positive ones must not be too large. -/
def decimalAt (s : List Char) : Option (Unit × List Char) := do
  let (negative, s) := signAt s
  let (digits, s) ← wholeAt s
  let ((fraction, exponent), rest) ←
    match fractionAt s with
    | some (fraction, s) =>
      match exponentAt s with
      | some (exponent, rest) => some ((fraction, exponent), rest)
      | none => some ((fraction, 0), s)
    | none => (exponentAt s).map fun (exponent, rest) => (([], exponent), rest)
  if !negative && isHuge (numberInBase 10 (digits ++ fraction)) (exponent - fraction.length) then
    none
  else return ((), rest)

/-- One of the words for numbers that are none. -/
def specialAt (s : List Char) : Option (Unit × List Char) :=
  let (_, s) := signAt s
  ((literal "inf".toList s).or (literal "nan".toList s)).map ((), ·)

/-- A number that is not whole. -/
def fractionalAt (s : List Char) : Option (Unit × List Char) := (decimalAt s).or (specialAt s)

/-- So many digits, as a number within bounds. -/
def fieldAt (count low high : Nat) (s : List Char) : Option (Nat × List Char) :=
  let digits := s.take count
  let n := numberInBase 10 digits
  if digits.length = count && digits.all isAsciiDigit && low ≤ n && n ≤ high then
    some (n, s.drop count)
  else none

/-- A character that must stand at the front. -/
def charAt (c : Char) : List Char → Option (List Char)
  | d :: s => if c = d then some s else none
  | [] => none

def dateAt (s : List Char) : Option (List Char) := do
  let (year, s) ← fieldAt 4 0 9999 s
  let (month, s) ← fieldAt 2 1 12 (← charAt '-' s)
  let lengths := Calendar.monthLengths (Calendar.isLeap year)
  let (_, s) ← fieldAt 2 1 (lengths[month - 1]?.getD 31) (← charAt '-' s)
  return s

/-- A time of day, with a fraction of a second or without. -/
def timeAt (s : List Char) : Option (List Char) := do
  let (_, s) ← fieldAt 2 0 23 s
  let (_, s) ← fieldAt 2 0 59 (← charAt ':' s)
  let (_, s) ← fieldAt 2 0 60 (← charAt ':' s)
  match s with
  | '.' :: c :: rest => if isAsciiDigit c then return rest.dropWhile isAsciiDigit else return s
  | _ => return s

/-- An offset from universal time. -/
def offsetAt (s : List Char) : Option (List Char) :=
  match s with
  | 'Z' :: rest | 'z' :: rest => some rest
  | c :: rest =>
    if isSign c then do
      let (_, s) ← fieldAt 2 0 23 rest
      let (_, s) ← fieldAt 2 0 59 (← charAt ':' s)
      return s
    else none
  | [] => none

/-- A time behind a date, and its offset, as far as they are there. -/
def timeOfDateAt : List Char → List Char
  | c :: s =>
    if c = 'T' || c = 't' || c = ' ' then
      match timeAt s with
      | some rest => (offsetAt rest).getD rest
      | none => c :: s
    else c :: s
  | [] => []

/-- A date, a time, or both. -/
def momentAt (s : List Char) : Option (Unit × List Char) :=
  match dateAt s with
  | some rest => some ((), timeOfDateAt rest)
  | none => (timeAt s).map ((), ·)

end CameraRoll.Toml
