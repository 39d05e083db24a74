import CameraRoll.Json.Value
import CameraRoll.Text.ShortestDecimal

/-!
Numbers in JSON: digits with an optional sign, fraction and exponent. Whole numbers of 64 bits are
exact. All others become floating-point numbers by one multiplication or division of their leading
digits by a power of ten; too large ones are refused.
-/

namespace CameraRoll.Json

open CameraRoll.Text

/-- The parts of a number as written. -/
structure NumberLiteral where
  negative : Bool
  digits : List Char
  fraction : Option (List Char)
  exponent : Option Int
  deriving DecidableEq, Repr

/-- ASCII digits at the front, and what follows them. -/
def spanAsciiDigits (s : List Char) : List Char × List Char :=
  (s.takeWhile isAsciiDigit, s.dropWhile isAsciiDigit)

/-- At least one digit at the front. -/
def digitsAt (s : List Char) : Option (List Char × List Char) :=
  match spanAsciiDigits s with
  | ([], _) => none
  | split => some split

/-- Digits without a zero in front of others. -/
def wholeDigitsAt : List Char → Option (List Char × List Char)
  | '0' :: rest => some (['0'], rest)
  | s => digitsAt s

/-- A point and digits; without a point no fraction. -/
def fractionAt : List Char → Option (Option (List Char) × List Char)
  | '.' :: s => (digitsAt s).map fun (digits, rest) => (some digits, rest)
  | s => some (none, s)

/-- An `e`, a sign and digits; without an `e` no exponent. -/
def exponentAt : List Char → Option (Option Int × List Char)
  | c :: s =>
    if c == 'e' || c == 'E' then do
      let (negative, s) := match s with
        | '-' :: s => (true, s)
        | '+' :: s => (false, s)
        | s => (false, s)
      let (digits, rest) ← digitsAt s
      let magnitude : Int := (← readNumeral digits)
      return (some (if negative then -magnitude else magnitude), rest)
    else some (none, c :: s)
  | [] => some (none, [])

/-- The number at the front, and what follows it. -/
def numberAt (s : List Char) : Option (NumberLiteral × List Char) := do
  let (negative, s) := match s with
    | '-' :: s => (true, s)
    | s => (false, s)
  let (digits, s) ← wholeDigitsAt s
  let (fraction, s) ← fractionAt s
  let (exponent, s) ← exponentAt s
  return (⟨negative, digits, fraction, exponent⟩, s)

theorem length_dropWhile_le (p : Char → Bool) (s : List Char) :
    (s.dropWhile p).length ≤ s.length := (List.dropWhile_sublist p).length_le

theorem length_lt_of_digitsAt {s digits rest : List Char} (h : digitsAt s = some (digits, rest)) :
    rest.length < s.length := by
  unfold digitsAt spanAsciiDigits at h
  cases s with
  | nil => simp at h
  | cons c s =>
    by_cases digit : isAsciiDigit c
    · simp only [List.takeWhile_cons, List.dropWhile_cons, digit, if_true] at h
      simp only [Option.some.injEq, Prod.mk.injEq] at h
      rw [← h.2]
      have := length_dropWhile_le isAsciiDigit s
      simp; omega
    · simp [digit] at h

theorem length_lt_of_wholeDigitsAt {s digits rest : List Char}
    (h : wholeDigitsAt s = some (digits, rest)) : rest.length < s.length := by
  unfold wholeDigitsAt at h
  split at h
  · simp at h; simp [← h.2]
  · exact length_lt_of_digitsAt h

theorem length_le_of_fractionAt {s rest : List Char} {fraction : Option (List Char)}
    (h : fractionAt s = some (fraction, rest)) : rest.length ≤ s.length := by
  unfold fractionAt at h
  split at h
  · simp only [Option.map_eq_some_iff, Prod.mk.injEq, Prod.exists] at h
    obtain ⟨a, b, found, -, rfl⟩ := h
    have := length_lt_of_digitsAt found
    simp; omega
  · simp at h; simp [← h.2]

theorem length_le_of_exponentAt {s rest : List Char} {exponent : Option Int}
    (h : exponentAt s = some (exponent, rest)) : rest.length ≤ s.length := by
  unfold exponentAt at h
  split at h
  · split at h
    · simp only [Option.pure_def, Option.bind_eq_bind, Option.bind_eq_some_iff, Option.some.injEq,
        Prod.mk.injEq, Prod.exists] at h
      obtain ⟨a, b, found, magnitude, -, -, rfl⟩ := h
      have shorter := length_lt_of_digitsAt found
      split at shorter <;> simp_all <;> omega
    · simp at h; simp [← h.2]
  · simp at h; simp [← h.2]

/-- What follows a number is shorter than the whole. -/
theorem length_lt_of_numberAt {s rest : List Char} {literal : NumberLiteral}
    (h : numberAt s = some (literal, rest)) : rest.length < s.length := by
  unfold numberAt at h
  simp only [Option.pure_def, Option.bind_eq_bind, Option.bind_eq_some_iff, Option.some.injEq,
    Prod.mk.injEq, Prod.exists] at h
  obtain ⟨digits, behind, whole, fraction, beyond, part, exponent, last, power, -, rfl⟩ := h
  have first := length_lt_of_wholeDigitsAt whole
  have second := length_le_of_fractionAt part
  have third := length_le_of_exponentAt power
  split at first <;> simp_all <;> omega

/-- The number that leading digits make up, continuing from `acc`, as long as it fits into 64 bits,
and how many digits are left. -/
def leadingDigits (acc : Nat) : List Char → Nat × Nat
  | [] => (acc, 0)
  | c :: rest =>
    let next := acc * 10 + (c.toNat - 48)
    if maxWord64 < next then (acc, rest.length + 1) else leadingDigits next rest

/-- `significand * 10 ^ exponent` as a floating-point number, if it is not too large. -/
def scaled (significand : Nat) (exponent : Int) : Option Float :=
  let start := Float.ofNat significand
  let power (n : Nat) := Float.ofScientific 1 false n
  if significand = 0 then some 0
  else if 308 < exponent then none
  else if 0 ≤ exponent then
    let product := start * power exponent.toNat
    if product.isInf then none else some product
  else if -308 ≤ exponent then some (start / power (-exponent).toNat)
  else if -616 ≤ exponent then some (start / power 308 / power (-exponent - 308).toNat)
  else some 0

/-- The floating-point number of a literal. -/
def NumberLiteral.float (literal : NumberLiteral) : Option Float := do
  let (front, dropped) := leadingDigits 0 literal.digits
  let fraction := literal.fraction.getD []
  let (significand, left) := leadingDigits front fraction
  let places : Int := dropped - ((fraction.length - left : Nat) : Int)
  let magnitude ← scaled significand (places + literal.exponent.getD 0)
  return if literal.negative then -magnitude else magnitude

/-- The value of a literal. A negative zero is a floating-point number. -/
def NumberLiteral.value (literal : NumberLiteral) : Option JsonValue :=
  let whole? : Option Int :=
    if literal.fraction.isSome || literal.exponent.isSome then none
    else
      match readNumeral literal.digits with
      | none => none
      | some n =>
        if literal.negative then
          if n = 0 || maxSigned64 + 1 < n then none else some (-(n : Int))
        else if maxWord64 < n then none
        else some n
  match whole? with
  | some n => some (.whole n)
  | none => literal.float.map .real

/-- How floating-point numbers are written: with at most sixteen digits before the point or five
zeros behind it, otherwise with a signed exponent. -/
def realStyle : DecimalStyle := ⟨16, 4, ['+']⟩

def wholeText (n : Int) : List Char :=
  if n < 0 then '-' :: numeral n.natAbs else numeral n.natAbs

end CameraRoll.Json
