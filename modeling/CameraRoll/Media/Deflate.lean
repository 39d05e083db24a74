import CameraRoll.Media.PrefixCode

/-!
Reading data compressed as a stream of deflate blocks in a zlib frame.
-/

namespace CameraRoll.Deflate

/-- Where reading stands: the position of the next bit, and what came out so far. -/
structure Cursor where
  pos : Nat
  out : ByteArray

/-- A number in the stream, in the bits from the cursor on. -/
def Cursor.take? (c : Cursor) (bits : Bits) (count : Nat) : Option (Nat × Cursor) :=
  (bits.rising? c.pos count).map fun n => (n, { c with pos := c.pos + count })

/-- The next `count` bytes repeat those that came out `distance` bytes before. -/
def repeatFrom (out : ByteArray) (distance : Nat) : (count : Nat) → ByteArray
  | 0 => out
  | count + 1 => repeatFrom (out.push (byteAt out (out.size - distance))) distance count

/-- Bytes that stand for themselves, from a byte of the data on. -/
def appendStored (data : ByteArray) (out : ByteArray) (start count : Nat) : ByteArray :=
  out ++ data.extract start (start + count)

/-- The shortest run that a symbol stands for, and the number of bits that lengthen it. -/
def runLengths : Array (Nat × Nat) :=
  #[(3, 0), (4, 0), (5, 0), (6, 0), (7, 0), (8, 0), (9, 0), (10, 0), (11, 1), (13, 1), (15, 1),
    (17, 1), (19, 2), (23, 2), (27, 2), (31, 2), (35, 3), (43, 3), (51, 3), (59, 3), (67, 4),
    (83, 4), (99, 4), (115, 4), (131, 5), (163, 5), (195, 5), (227, 5), (258, 0)]

/-- The smallest distance that a symbol stands for, and the number of bits that lengthen it. -/
def distances : Array (Nat × Nat) :=
  #[(1, 0), (2, 0), (3, 0), (4, 0), (5, 1), (7, 1), (9, 2), (13, 2), (17, 3), (25, 3), (33, 4),
    (49, 4), (65, 5), (97, 5), (129, 6), (193, 6), (257, 7), (385, 7), (513, 8), (769, 8),
    (1025, 9), (1537, 9), (2049, 10), (3073, 10), (4097, 11), (6145, 11), (8193, 12), (12289, 12),
    (16385, 13), (24577, 13)]

/-- A number given by a symbol of a table and the bits behind the symbol. -/
def lengthened? (bits : Bits) (table : Array (Nat × Nat)) (symbol : Nat) (c : Cursor) :
    Option (Nat × Cursor) := do
  let (base, extra) ← table[symbol]?
  let (more, c) ← c.take? bits extra
  return (base + more, c)

/-- The symbols of a block up to its end. -/
def symbols? (bits : Bits) (literals runs : PrefixCode) : (fuel : Nat) → Cursor → Option Cursor
  | 0, _ => none
  | fuel + 1, c => do
    let (symbol, pos) ← literals.decode? bits c.pos
    let c := { c with pos := pos }
    if symbol < 256 then
      symbols? bits literals runs fuel { c with out := c.out.push (UInt8.ofNat symbol) }
    else if symbol = 256 then return c
    else
      let (count, c) ← lengthened? bits runLengths (symbol - 257) c
      let (far, pos) ← runs.decode? bits c.pos
      let (distance, c) ← lengthened? bits distances far { c with pos := pos }
      if distance ≤ c.out.size then
        symbols? bits literals runs fuel { c with out := repeatFrom c.out distance count }
      else none

/-- The code for literals and runs where a block brings none. -/
def fixedLiterals : PrefixCode :=
  PrefixCode.ofLengths 15 (List.replicate 144 8 ++ List.replicate 112 9 ++ List.replicate 24 7 ++
    List.replicate 8 8)

/-- The code for distances where a block brings none. -/
def fixedDistances : PrefixCode := PrefixCode.ofLengths 15 (List.replicate 32 5)

/-- The order in which the lengths of the code for lengths are given. -/
def lengthOrder : List Nat := [16, 17, 18, 0, 8, 7, 9, 6, 10, 5, 11, 4, 12, 3, 13, 2, 14, 1, 15]

/-- Numbers of three bits each. -/
def threeBits? (bits : Bits) : (count : Nat) → Cursor → Option (List Nat × Cursor)
  | 0, c => some ([], c)
  | count + 1, c => do
    let (n, c) ← c.take? bits 3
    let (rest, c) ← threeBits? bits count c
    return (n :: rest, c)

/-- Code lengths, `count` in all, some of them given as repetitions. `read` holds those before, the
last one first. -/
def lengths? (bits : Bits) (code : PrefixCode) (count : Nat) :
    (fuel : Nat) → (read : List Nat) → Cursor → Option (List Nat × Cursor)
  | 0, _, _ => none
  | fuel + 1, read, c =>
    if read.length = count then some (read.reverse, c)
    else if count < read.length then none
    else do
      let (symbol, pos) ← code.decode? bits c.pos
      let c := { c with pos := pos }
      if symbol < 16 then lengths? bits code count fuel (symbol :: read) c
      else
        let (value, least, extra) ← match symbol with
          | 16 => read.head?.map fun last => (last, 3, 2)
          | 17 => some (0, 3, 3)
          | _ => some (0, 11, 7)
        let (more, c) ← c.take? bits extra
        lengths? bits code count fuel (List.replicate (least + more) value ++ read) c

/-- A code can be used if it is complete, or if it has a single word of one bit. -/
def isUsable (code : PrefixCode) : Bool :=
  code.isComplete || (code.symbols.size == 1 && code.counts.head? == some 1)

/-- The two codes that a block brings with it. -/
def codes? (bits : Bits) (c : Cursor) : Option (PrefixCode × PrefixCode × Cursor) := do
  let (literalCount, c) ← c.take? bits 5
  let (distanceCount, c) ← c.take? bits 5
  let (lengthCount, c) ← c.take? bits 4
  let (given, c) ← threeBits? bits (lengthCount + 4) c
  let placed := lengthOrder.zip given
  let code := PrefixCode.ofLengths 7 ((List.range 19).map fun i => (placed.lookup i).getD 0)
  if !isUsable code then none
  let total := literalCount + 257 + (distanceCount + 1)
  let (lengths, c) ← lengths? bits code total (total + 1) [] c
  let literals := PrefixCode.ofLengths 15 (lengths.take (literalCount + 257))
  let runs := PrefixCode.ofLengths 15 (lengths.drop (literalCount + 257))
  if literalCount + 257 ≤ 286 ∧ lengths.getD 256 0 ≠ 0 ∧ isUsable literals ∧
      (runs.symbols.isEmpty ∨ isUsable runs) then
    return (literals, runs, c)
  else none

/-- One block: whether it is the last, and where reading stands behind it. -/
def block? (bits : Bits) (c : Cursor) : Option (Bool × Cursor) := do
  let (last, c) ← c.take? bits 1
  let (kind, c) ← c.take? bits 2
  let c ← match kind with
    | 0 =>
      let start := (c.pos + 7) / 8
      let count ← ByteOrder.leastFirst.number? bits.bytes start 2
      let check ← ByteOrder.leastFirst.number? bits.bytes (start + 2) 2
      if count + check = 0xffff ∧ start + 4 + count ≤ bits.bytes.size then
        some (⟨8 * (start + 4 + count), appendStored bits.bytes c.out (start + 4) count⟩ : Cursor)
      else none
    | 1 => symbols? bits fixedLiterals fixedDistances (bits.length + 1) c
    | 2 => do
      let (literals, runs, c) ← codes? bits c
      symbols? bits literals runs (bits.length + 1) c
    | _ => none
  return (last == 1, c)

/-- Blocks up to the last one. Every block takes bits, so that there are fewer than `fuel`. -/
def blocks? (bits : Bits) : (fuel : Nat) → Cursor → Option Cursor
  | 0, _ => none
  | fuel + 1, c => do
    let (last, c) ← block? bits c
    if last then return c else blocks? bits fuel c

/-- What a zlib stream holds. The checksum must be there, but its value does not matter, and neither
does anything behind it. -/
def inflate? (stream : ByteArray) : Option ByteArray := do
  let header ← ByteOrder.greatestFirst.number? stream 0 2
  let method := header / 256
  if method % 16 ≠ 8 ∨ method / 16 > 7 ∨ header % 31 ≠ 0 ∨ header / 32 % 2 = 1 then none
  let bits : Bits := ⟨stream, false, false⟩
  let c ← blocks? bits (bits.length + 1) ⟨16, ByteArray.empty⟩
  if (c.pos + 7) / 8 + 4 ≤ stream.size then return c.out else none

end CameraRoll.Deflate
