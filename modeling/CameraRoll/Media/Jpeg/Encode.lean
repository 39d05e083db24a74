import CameraRoll.Media.Colour
import CameraRoll.Media.Jpeg.Table

/-!
Writing JPEG files: brightness and both colour differences in full resolution, in one scan.
-/

namespace CameraRoll.Jpeg

/-- Bits on their way into bytes. A byte of ones is followed by a byte of zeros, so that it is not
taken for a marker. -/
structure BitSink where
  out : ByteArray
  /-- Bits that do not fill a byte yet, the last ones written in the lowest places. -/
  pending : UInt32
  count : Nat

namespace BitSink

/-- Writes out the full bytes among the pending bits. -/
def settle (out : ByteArray) (pending : UInt32) (count : Nat) : BitSink :=
  if 8 ≤ count then
    let byte := (pending >>> UInt32.ofNat (count - 8)).toUInt8
    let out := out.push byte
    settle (if byte = 0xff then out.push 0 else out) pending (count - 8)
  else ⟨out, pending, count⟩

/-- Writes the lowest `length` bits of a number, at most sixteen. -/
def put (sink : BitSink) (bits : UInt32) (length : Nat) : BitSink :=
  settle sink.out ((sink.pending <<< UInt32.ofNat length) ||| bits) (sink.count + length)

end BitSink

/-- The words of a code by symbol: length and bits. -/
def wordTable (code : PrefixCode) : Array (Nat × UInt32) :=
  code.words.foldl
    (fun table (symbol, length, word) => table.set! symbol (length, UInt32.ofNat word))
    (Array.replicate 256 (0, 0))

/-- Places needed for a number without its sign. -/
def sizeOf (n : Int) : Nat := if n = 0 then 0 else n.natAbs.log2 + 1

/-- The bits that stand for a number behind its size; those of a negative number are the ones of its
amount, exchanged. -/
def signedBits (n : Int) (size : Nat) : UInt32 :=
  UInt32.ofNat (if n < 0 then n + (Nat.pow 2 size - 1 : Nat) else n).toNat

/-- The tables for one component. -/
structure ComponentTables where
  divisors : Block
  means : Array (Nat × UInt32)
  waves : Array (Nat × UInt32)

def putSymbol (sink : BitSink) (table : Array (Nat × UInt32)) (symbol : Nat) : BitSink :=
  let (length, word) := table.getD symbol (0, 0)
  sink.put word length

/-- Writes the word for sixteen zeros as often as there are sixteen. -/
def putLongRuns (table : Array (Nat × UInt32)) (sink : BitSink) (zeros : Nat) : BitSink × Nat :=
  if 15 < zeros then putLongRuns table (putSymbol sink table 0xf0) (zeros - 16) else (sink, zeros)

/-- Writes the frequencies of a block at some places; `zeros` stand before them. -/
def putWaves (table : Array (Nat × UInt32)) (b : Block) :
    (places : List (Fin 64)) → (sink : BitSink) → (zeros : Nat) → BitSink
  | [], sink, zeros => if 0 < zeros then putSymbol sink table 0 else sink
  | place :: rest, sink, zeros =>
    let n := b.get place
    if n = 0 then putWaves table b rest sink (zeros + 1)
    else
      let (sink, zeros) := putLongRuns table sink zeros
      let size := sizeOf n
      putWaves table b rest
        ((putSymbol sink table (16 * zeros + size)).put (signedBits n size) size) 0

/-- Writes a block: the step from the mean of the block before, then the other frequencies. -/
def putBlock (tables : ComponentTables) (sink : BitSink) (before : Int) (b : Block) : BitSink :=
  let step := b.mean - before
  let size := sizeOf step
  let sink := (putSymbol sink tables.means size).put (signedBits step size) size
  putWaves tables.waves b Block.zigzag.tail sink 0

/-- A quotient rounded to the nearest whole number, halves away from zero. -/
def roundedQuotient (n divisor : Int) : Int :=
  let amount := (2 * n.natAbs + divisor.natAbs) / (2 * divisor.natAbs)
  if n < 0 then -(amount : Int) else amount

/-- The frequencies of a block of samples, divided. -/
def divided (divisors samples : Block) : Block :=
  let frequencies := samples.frequencies
  Vector.ofFn fun k : Fin 64 => roundedQuotient (Int.tdiv (frequencies.get k) 8) (divisors.get k)

/-- Half of a unit of the sixteen binary places in which colours are weighed, rounded down. -/
def halfUnit : Int := 0x7fff

/-- The brightness of a pixel, around zero. -/
def brightnessOf (c : Colour) : Int :=
  ((19595 * (c.red.toNat : Int) + 38469 * (c.green.toNat : Int) + 7471 * (c.blue.toNat : Int)
    + halfUnit) >>> (16 : Nat)) - 128

/-- How much bluer than bright a pixel is. -/
def bluenessOf (c : Colour) : Int :=
  (-11059 * (c.red.toNat : Int) - 21709 * (c.green.toNat : Int) + 32768 * (c.blue.toNat : Int)
    + halfUnit) >>> (16 : Nat)

/-- How much redder than bright a pixel is. -/
def rednessOf (c : Colour) : Int :=
  (32768 * (c.red.toNat : Int) - 27439 * (c.green.toNat : Int) - 5329 * (c.blue.toNat : Int)
    + halfUnit) >>> (16 : Nat)

/-- What has been written of a scan, and the means of the last block of each component. -/
structure ScanState where
  sink : BitSink
  brightness : Int
  blue : Int
  red : Int

/-- Writes the three blocks at a place of the raster, which goes on as its edge does. -/
def putBlocks (brightness colour : ComponentTables) (r : Raster Colour) (state : ScanState)
    (left top : Nat) : ScanState :=
  let pixels : Vector Colour 64 := Vector.ofFn fun k : Fin 64 =>
    (r.get? (min (left + k.val % 8) (r.width - 1))
      (min (top + k.val / 8) (r.height - 1))).getD (Colour.grey 0)
  let first := divided brightness.divisors (pixels.map brightnessOf)
  let second := divided colour.divisors (pixels.map bluenessOf)
  let third := divided colour.divisors (pixels.map rednessOf)
  let sink := putBlock brightness state.sink state.brightness first
  let sink := putBlock colour sink state.blue second
  let sink := putBlock colour sink state.red third
  ⟨sink, first.mean, second.mean, third.mean⟩

/-- Writes all blocks, row by row. -/
def putScan (brightness colour : ComponentTables) (r : Raster Colour) (out : ByteArray) :
    BitSink :=
  let across := (r.width + 7) / 8
  let down := (r.height + 7) / 8
  ((across * down).fold
    (fun i _ state => putBlocks brightness colour r state (8 * (i % across)) (8 * (i / across)))
    ⟨⟨out, 0, 0⟩, 0, 0, 0⟩).sink

/-- A number in two bytes. -/
def twoBytes (n : Nat) : List UInt8 := [UInt8.ofNat (n / 256), UInt8.ofNat n]

/-- A segment: its marker, its size and its content. -/
def segment (kind : UInt8) (content : List UInt8) : List UInt8 :=
  [0xff, kind] ++ twoBytes (content.length + 2) ++ content

/-- The segment for a table of divisors. -/
def divisorSegment (number : UInt8) (divisors : Block) : List UInt8 :=
  segment 0xdb (number :: Block.zigzag.map fun k => UInt8.ofNat (divisors.get k).toNat)

/-- The segment for a code. -/
def codeSegment (number : UInt8) (code : PrefixCode) : List UInt8 :=
  segment 0xc4
    (number :: (code.counts.map UInt8.ofNat ++ code.symbols.toList.map UInt8.ofNat))

/-- Everything in front of the scan. -/
def head (width height : Nat) (brightness colour : Block) : List UInt8 :=
  [0xff, 0xd8] ++
    segment 0xe0 [0x4a, 0x46, 0x49, 0x46, 0, 1, 2, 0, 0, 1, 0, 1, 0, 0] ++
    segment 0xc0 ([8] ++ twoBytes height ++ twoBytes width ++
      [3, 1, 0x11, 0, 2, 0x11, 1, 3, 0x11, 1]) ++
    divisorSegment 0 brightness ++ divisorSegment 1 colour ++
    codeSegment 0x00 brightnessMeans ++ codeSegment 0x10 brightnessWaves ++
    codeSegment 0x01 colourMeans ++ codeSegment 0x11 colourWaves ++
    segment 0xda [3, 1, 0x00, 2, 0x11, 3, 0x11, 0, 0x3f, 0]

/-- The longest side that a file can state. -/
def longestSide : Nat := 65535

/-- The file for a raster with amounts of light in one byte; none if a side is empty or too long. -/
def encode? (quality : Nat) (r : Raster Colour) : Option ByteArray :=
  if r.width = 0 ∨ r.height = 0 ∨ longestSide < r.width ∨ longestSide < r.height then none
  else
    let brightness := divisorsFor quality brightnessDivisors
    let colour := divisorsFor quality colourDivisors
    let front : ByteArray := ⟨(head r.width r.height brightness colour).toArray⟩
    let sink := putScan ⟨brightness, wordTable brightnessMeans, wordTable brightnessWaves⟩
      ⟨colour, wordTable colourMeans, wordTable colourWaves⟩ r front
    let out := (sink.put 0x7f 7).out
    some ((out.push 0xff).push 0xd9)

end CameraRoll.Jpeg
