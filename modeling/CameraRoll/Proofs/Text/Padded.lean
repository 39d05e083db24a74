import CameraRoll.Text.Numeral
import Mathlib.Algebra.Group.Nat.Defs

/-!
Numerals and their values. Main statements: `readNumeral_eq_some_iff`, that ASCII digits are read as
their decimal value, and `readNumeral_paddedNumeral`, that a number padded with zeros is read back.
-/

namespace CameraRoll.Text

/-! ### Values -/

/-- ASCII digits, at least one of them. -/
def IsNumeral (digits : List Char) : Prop :=
  digits ≠ [] ∧ ∀ c ∈ digits, isAsciiDigit c = true

instance (digits : List Char) : Decidable (IsNumeral digits) :=
  decidable_of_iff (digits ≠ [] ∧ digits.all isAsciiDigit = true) (by simp [IsNumeral])

/-- The value of decimal digits, most significant first. -/
def decimalValue (digits : List Char) : Nat :=
  digits.foldl (fun value c => 10 * value + (c.toNat - 48)) 0

private theorem readDigits_eq_some_iff (acc : Nat) (digits : List Char) (n : Nat) :
    readDigits acc digits = some n ↔ (∀ c ∈ digits, isAsciiDigit c = true) ∧
      digits.foldl (fun value c => 10 * value + (c.toNat - 48)) acc = n := by
  induction digits generalizing acc with
  | nil => simp [readDigits]
  | cons c rest ih =>
    by_cases digit : isAsciiDigit c = true
    · simp [readDigits, digit, ih, Nat.mul_comm 10 acc]
    · simp [readDigits, digit]

/-- ASCII digits are read as their decimal value, and nothing else is read. -/
theorem readNumeral_eq_some_iff (digits : List Char) (n : Nat) :
    readNumeral digits = some n ↔ IsNumeral digits ∧ decimalValue digits = n := by
  cases digits with
  | nil => simp [readNumeral, IsNumeral]
  | cons c rest =>
    rw [readNumeral, readDigits_eq_some_iff, IsNumeral, decimalValue]
    simp

theorem readNumeral_of_isNumeral {digits : List Char} (numeral : IsNumeral digits) :
    readNumeral digits = some (decimalValue digits) :=
  (readNumeral_eq_some_iff _ _).mpr ⟨numeral, rfl⟩

/-! ### Numerals padded with zeros -/

theorem length_numeral_le {width n : Nat} (positive : 0 < width) (small : n < 10 ^ width) :
    (numeral n).length ≤ width := by
  -- by induction on the width, a digit at a time
  induction width generalizing n with
  | zero => omega
  | succ width ih =>
    rw [numeral]
    split
    · simp
    next large =>
      rw [Nat.pow_succ] at small
      have wide : 0 < width := by
        rcases Nat.eq_zero_or_pos width with rfl | wide
        · omega
        · exact wide
      have front : (numeral (n / 10)).length ≤ width := ih wide (by omega)
      simp only [List.length_append, List.length_singleton]
      omega

theorem length_paddedNumeral {width n : Nat} (positive : 0 < width) (small : n < 10 ^ width) :
    (paddedNumeral width n).length = width := by
  have fits := length_numeral_le positive small
  simp only [paddedNumeral, List.length_append, List.length_replicate]
  omega

theorem isAsciiDigit_of_mem_paddedNumeral {width n : Nat} {c : Char}
    (member : c ∈ paddedNumeral width n) : isAsciiDigit c = true := by
  rcases List.mem_append.mp member with zero | digit
  · rw [(List.mem_replicate.mp zero).2]
    decide
  · exact isAsciiDigit_of_mem_numeral n c digit

private theorem readDigits_replicate_zero (count : Nat) :
    readDigits 0 (List.replicate count '0') = some 0 := by
  induction count with
  | zero => rfl
  | succ count ih => simpa [List.replicate_succ, readDigits, isAsciiDigit] using ih

/-- Zeros in front do not change the value of a numeral. -/
theorem readNumeral_paddedNumeral (width n : Nat) :
    readNumeral (paddedNumeral width n) = some n := by
  have read : readDigits 0 (paddedNumeral width n) = some n := by
    rw [paddedNumeral, readDigits_append, readDigits_replicate_zero, Option.bind_some,
      readDigits_numeral]
  cases digits : paddedNumeral width n with
  | nil => exact absurd (List.append_eq_nil_iff.mp digits).2 (numeral_ne_nil n)
  | cons c rest =>
    rw [digits] at read
    exact read

end CameraRoll.Text
