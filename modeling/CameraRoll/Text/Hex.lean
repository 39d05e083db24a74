/-!
Hexadecimal digits and characters given by their numbers.
-/

namespace CameraRoll.Text

/-- The value of a hexadecimal digit of either case. -/
def hexValue? (c : Char) : Option Nat :=
  let n := c.toNat
  if 48 ≤ n && n ≤ 57 then some (n - 48)
  else if 97 ≤ n && n ≤ 102 then some (n - 87)
  else if 65 ≤ n && n ≤ 70 then some (n - 55)
  else none

/-- A hexadecimal digit of either case. -/
def isHexDigit (c : Char) : Bool := (hexValue? c).isSome

/-- The number that digits of a base make up. -/
def numberInBase (base : Nat) (digits : List Char) : Nat :=
  digits.foldl (fun n c => n * base + (hexValue? c).getD 0) 0

/-- The character with a number, if there is one: surrogates and numbers that are too large have
none. -/
def scalar? (n : Nat) : Option Char := if n.isValidChar then some (Char.ofNat n) else none

/-- The character whose number is given by hexadecimal digits. -/
def scalarOfHex? (digits : List Char) : Option Char :=
  if digits.all isHexDigit then scalar? (numberInBase 16 digits) else none

end CameraRoll.Text
