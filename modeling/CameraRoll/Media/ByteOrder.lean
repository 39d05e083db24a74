/-!
Numbers written in several bytes.
-/

namespace CameraRoll

/-- Which byte of a number comes first. -/
inductive ByteOrder where
  | greatestFirst
  | leastFirst
  deriving DecidableEq, Repr

/-- The number written in some bytes. -/
def ByteOrder.value (order : ByteOrder) (bytes : List UInt8) : Nat :=
  match order with
  | .greatestFirst => bytes.foldl (fun n b => 256 * n + b.toNat) 0
  | .leastFirst => bytes.foldr (fun b n => 256 * n + b.toNat) 0

/-- The byte at a place; zero behind the end. -/
def byteAt (data : ByteArray) (place : Nat) : UInt8 :=
  if inside : place < data.size then data[place] else 0

/-- The `count` bytes from `start` on; none if the data end before. -/
def bytesAt? (data : ByteArray) (start count : Nat) : Option (List UInt8) :=
  if start + count ≤ data.size then
    some ((List.range count).map fun i => byteAt data (start + i))
  else none

/-- The number written in the `count` bytes from `start` on. -/
def ByteOrder.number? (order : ByteOrder) (data : ByteArray) (start count : Nat) : Option Nat :=
  (bytesAt? data start count).map order.value

/-- Whether the data begin with these bytes. -/
def startsWith (data : ByteArray) (front : List UInt8) : Bool :=
  bytesAt? data 0 front.length == some front

end CameraRoll
