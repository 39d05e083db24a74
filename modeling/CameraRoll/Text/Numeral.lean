import CameraRoll.Text.Digit

/-!
Decimal numerals: writing a number with the fewest digits or padded to a width, and reading one
back. Only the ten ASCII digits have a value. Main statement: a written number is read back.
-/

namespace CameraRoll.Text

/-- The character of a digit below ten. -/
def digitChar (d : Nat) : Char := Char.ofNat (48 + d)

/-- The digits of a number, most significant first. -/
def numeral (n : Nat) : List Char :=
  if n < 10 then [digitChar n] else numeral (n / 10) ++ [digitChar (n % 10)]
termination_by n
decreasing_by omega

/-- A numeral with zeros in front up to `width` characters. -/
def paddedNumeral (width n : Nat) : List Char :=
  let digits := numeral n
  List.replicate (width - digits.length) '0' ++ digits

/-- The value of a run of ASCII digits, continuing from `acc`. -/
def readDigits (acc : Nat) : List Char → Option Nat
  | [] => some acc
  | c :: rest => if isAsciiDigit c then readDigits (acc * 10 + (c.toNat - 48)) rest else none

/-- The value of a numeral: at least one character, all of them ASCII digits. -/
def readNumeral : List Char → Option Nat
  | [] => none
  | c :: rest => readDigits 0 (c :: rest)

/-- The value of a numeral if it is at most `limit`. -/
def readNumeralUpTo (limit : Nat) (s : List Char) : Option Nat :=
  (readNumeral s).filter (· ≤ limit)

/-- Largest number of 64 bits. -/
def maxWord64 : Nat := 0xffffffffffffffff

/-- Largest signed number of 64 bits. -/
def maxSigned64 : Nat := 0x7fffffffffffffff

theorem digitChar_toNat {d : Nat} (h : d < 10) : (digitChar d).toNat = 48 + d := by
  have all : ∀ d, d < 10 → (digitChar d).toNat = 48 + d := by decide
  exact all d h

theorem isAsciiDigit_digitChar {d : Nat} (h : d < 10) : isAsciiDigit (digitChar d) = true := by
  simp [isAsciiDigit, digitChar_toNat h]; omega

theorem numeral_ne_nil (n : Nat) : numeral n ≠ [] := by
  rw [numeral]; split <;> simp

theorem isAsciiDigit_of_mem_numeral (n : Nat) : ∀ c ∈ numeral n, isAsciiDigit c = true := by
  induction n using Nat.strongRecOn with
  | _ n ih =>
    rw [numeral]
    split
    · rename_i small
      intro c member
      simp only [List.mem_singleton] at member
      exact member ▸ isAsciiDigit_digitChar small
    · intro c member
      rcases List.mem_append.mp member with front | last
      · exact ih (n / 10) (by omega) c front
      · simp only [List.mem_singleton] at last
        exact last ▸ isAsciiDigit_digitChar (Nat.mod_lt _ (by omega))

theorem readDigits_append (acc : Nat) (s t : List Char) :
    readDigits acc (s ++ t) = (readDigits acc s).bind (readDigits · t) := by
  induction s generalizing acc with
  | nil => rfl
  | cons c s ih => by_cases h : isAsciiDigit c <;> simp [readDigits, h, ih]

theorem readDigits_numeral (n : Nat) : readDigits 0 (numeral n) = some n := by
  induction n using Nat.strongRecOn with
  | _ n ih =>
    rw [numeral]
    split
    · rename_i small
      simp [readDigits, isAsciiDigit_digitChar small, digitChar_toNat small]
    · rename_i large
      have last : n % 10 < 10 := Nat.mod_lt _ (by omega)
      rw [readDigits_append, ih (n / 10) (by omega)]
      simp [readDigits, isAsciiDigit_digitChar last, digitChar_toNat last]
      omega

/-- A written number is read back. -/
theorem readNumeral_numeral (n : Nat) : readNumeral (numeral n) = some n := by
  have read := readDigits_numeral n
  cases h : numeral n with
  | nil => exact absurd h (numeral_ne_nil n)
  | cons c rest => rw [h] at read; simpa [readNumeral] using read

end CameraRoll.Text
