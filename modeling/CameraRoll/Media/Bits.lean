import CameraRoll.Media.ByteOrder

/-!
Sequences of bits held in bytes, read by position.
-/

namespace CameraRoll

/-- Bytes read as bits. -/
structure Bits where
  bytes : ByteArray
  /-- Whether the first bit of a byte is the one that counts most. -/
  greatestFirst : Bool
  /-- Whether zeros follow behind the last byte. -/
  endless : Bool

namespace Bits

def length (bits : Bits) : Nat := 8 * bits.bytes.size

/-- The bit at a position, if there is one. -/
def at? (bits : Bits) (pos : Nat) : Option Nat :=
  if pos < bits.length then
    let b := (byteAt bits.bytes (pos / 8)).toNat
    some ((b >>> (if bits.greatestFirst then 7 - pos % 8 else pos % 8)) % 2)
  else if bits.endless then some 0
  else none

/-- The next `count` bits as a number, of which the first bit counts least. -/
def rising? (bits : Bits) : (pos count : Nat) → Option Nat
  | _, 0 => some 0
  | pos, count + 1 => do
    let low ← bits.at? pos
    let high ← bits.rising? (pos + 1) count
    return low + 2 * high

/-- The next `count` bits as a number, of which the first bit counts most; `n` stands before
them. -/
def falling? (bits : Bits) : (pos count n : Nat) → Option Nat
  | _, 0, n => some n
  | pos, count + 1, n => do
    let bit ← bits.at? pos
    bits.falling? (pos + 1) count (2 * n + bit)

end Bits

end CameraRoll
