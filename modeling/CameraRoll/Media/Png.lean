import CameraRoll.Media.Colour
import CameraRoll.Media.Deflate

/-!
Reading PNG files: a signature and a row of chunks, of which the first describes the image, one may
hold a palette, and a run of others holds the compressed rows of samples.
-/

namespace CameraRoll.Png

/-- A remainder of the checksum's division, one bit further. -/
def checksumStep (n : UInt32) : UInt32 :=
  if n &&& 1 == 1 then (n >>> 1) ^^^ 0xedb88320 else n >>> 1

/-- The checksum of the bytes from `start` up to `stop`. -/
def checksum (data : ByteArray) (start stop : Nat) : UInt32 :=
  let remainder := (List.range (stop - start)).foldl
    (fun n i =>
      Nat.repeat checksumStep 8 (n ^^^ (byteAt data (start + i)).toUInt32))
    (0xffffffff : UInt32)
  remainder ^^^ 0xffffffff

/-- A chunk of a file: its kind, its content, and whether its checksum is right. -/
structure Chunk where
  kind : List UInt8
  content : ByteArray
  sound : Bool

/-- The kind of the chunk that describes the image. -/
def headerKind : List UInt8 := [0x49, 0x48, 0x44, 0x52]

/-- The kind of the chunk with the palette. -/
def paletteKind : List UInt8 := [0x50, 0x4c, 0x54, 0x45]

/-- The kind of the chunks with the compressed samples. -/
def samplesKind : List UInt8 := [0x49, 0x44, 0x41, 0x54]

/-- A chunk that must be understood, as its first letter is a capital. -/
def Chunk.isCritical (chunk : Chunk) : Bool :=
  match chunk.kind with
  | first :: _ => first &&& 0x20 == 0
  | [] => false

/-- The chunk at a place in a file, and the place behind it. -/
def chunk? (file : ByteArray) (place : Nat) : Option (Chunk × Nat) := do
  let size ← ByteOrder.greatestFirst.number? file place 4
  let kind ← bytesAt? file (place + 4) 4
  let stop := place + 8 + size
  let stated ← ByteOrder.greatestFirst.number? file stop 4
  return (⟨kind, file.extract (place + 8) stop,
    (checksum file (place + 4) stop).toNat == stated⟩, stop + 4)

/-- How the light of a pixel is written down. -/
inductive ColourType where
  | grey
  | colour
  | palette
  | greyAlpha
  | colourAlpha
  deriving DecidableEq, Repr

def ColourType.channels : ColourType → Nat
  | .grey | .palette => 1
  | .greyAlpha => 2
  | .colour => 3
  | .colourAlpha => 4

/-- The way of writing that a number stands for, if samples may then have this many bits. -/
def ColourType.ofNumber? (number depth : Nat) : Option ColourType :=
  match number with
  | 0 => if depth ∈ [1, 2, 4, 8, 16] then some .grey else none
  | 2 => if depth ∈ [8, 16] then some .colour else none
  | 3 => if depth ∈ [1, 2, 4, 8] then some .palette else none
  | 4 => if depth ∈ [8, 16] then some .greyAlpha else none
  | 6 => if depth ∈ [8, 16] then some .colourAlpha else none
  | _ => none

/-- What the first chunk says. -/
structure Header where
  width : Nat
  height : Nat
  /-- Bits of a sample. -/
  depth : Nat
  colourType : ColourType
  interlaced : Bool
  deriving Repr

/-- The header in the content of a chunk. -/
def Header.read? (content : ByteArray) : Option Header := do
  if content.size ≠ 13 then none
  let width ← ByteOrder.greatestFirst.number? content 0 4
  let height ← ByteOrder.greatestFirst.number? content 4 4
  let depth := (byteAt content 8).toNat
  let colourType ← ColourType.ofNumber? (byteAt content 9).toNat depth
  let interlace := byteAt content 12
  if width = 0 ∨ height = 0 ∨ byteAt content 10 ≠ 0 ∨ byteAt content 11 ≠ 0 ∨ 1 < interlace then
    none
  else return { width, height, depth, colourType, interlaced := interlace == 1 }

def Header.pixelBits (h : Header) : Nat := h.colourType.channels * h.depth

/-- The pixels that are sent together: every `stepX`th of every `stepY`th row. -/
structure Pass where
  left : Nat
  top : Nat
  stepX : Nat
  stepY : Nat

/-- The passes in which the pixels are sent. -/
def Header.passes (h : Header) : List Pass :=
  if h.interlaced then
    [⟨0, 0, 8, 8⟩, ⟨4, 0, 8, 8⟩, ⟨0, 4, 4, 8⟩, ⟨2, 0, 4, 4⟩, ⟨0, 2, 2, 4⟩, ⟨1, 0, 2, 2⟩,
      ⟨0, 1, 1, 2⟩]
  else [⟨0, 0, 1, 1⟩]

def Pass.columns (p : Pass) (h : Header) : Nat := (h.width - p.left + p.stepX - 1) / p.stepX

def Pass.rows (p : Pass) (h : Header) : Nat := (h.height - p.top + p.stepY - 1) / p.stepY

/-- Bytes of a row of a pass, without the byte that names its filter. -/
def Pass.rowSize (p : Pass) (h : Header) : Nat := (p.columns h * h.pixelBits + 7) / 8

/-- Bytes of a pass; a pass without columns has no rows either. -/
def Pass.size (p : Pass) (h : Header) : Nat :=
  if p.columns h = 0 then 0 else p.rows h * (p.rowSize h + 1)

/-- Of three neighbours the one closest to what they let expect. -/
def paeth (left above corner : Nat) : Nat :=
  let expected : Int := left + above - corner
  let off (n : Nat) : Nat := (expected - n).natAbs
  if off left ≤ off above ∧ off left ≤ off corner then left
  else if off above ≤ off corner then above
  else corner

/-- What a filter lets expect of a byte from the bytes left of it, above it, and above the one left
of it. -/
def expected? (filter : UInt8) : Option (Nat → Nat → Nat → Nat) :=
  match filter.toNat with
  | 0 => some fun _ _ _ => 0
  | 1 => some fun left _ _ => left
  | 2 => some fun _ above _ => above
  | 3 => some fun left above _ => (left + above) / 2
  | 4 => some paeth
  | _ => none

/-- A row of bytes from what is sent of it: the differences from what the filter lets expect. `unit`
is how far back the byte to the left is. -/
def unfilter (expect : Nat → Nat → Nat → Nat) (unit : Nat) (data : ByteArray) (start size : Nat)
    (above : ByteArray) : ByteArray :=
  (List.range size).foldl
    (fun row i =>
      let left := if i < unit then 0 else (byteAt row (i - unit)).toNat
      let corner := if i < unit then 0 else (byteAt above (i - unit)).toNat
      let expected := expect left (byteAt above i).toNat corner
      row.push (byteAt data (start + i) + UInt8.ofNat expected))
    (ByteArray.emptyWithCapacity size)

/-- The rows of a pass, of which the first stands at a place in the data. -/
def rows? (unit size : Nat) (data : ByteArray) :
    (count place : Nat) → (above : ByteArray) → Option (List ByteArray)
  | 0, _, _ => some []
  | count + 1, place, above => do
    let expect ← expected? (byteAt data place)
    let row := unfilter expect unit data (place + 1) size above
    let rest ← rows? unit size data count (place + 1 + size) row
    return row :: rest

/-- The rows of all passes, one pass after the other. -/
def passRows? (h : Header) (data : ByteArray) :
    (passes : List Pass) → (place : Nat) → Option (List (Pass × Array ByteArray))
  | [], _ => some []
  | p :: rest, place => do
    let size := p.rowSize h
    let count := if p.columns h = 0 then 0 else p.rows h
    let rows ← rows? (max 1 (h.pixelBits / 8)) size data count place ByteArray.empty
    let others ← passRows? h data rest (place + p.size h)
    return (p, rows.toArray) :: others

/-- A sample of a row. -/
def sample (depth : Nat) (row : ByteArray) (i : Nat) : Nat :=
  if depth = 16 then 256 * (byteAt row (2 * i)).toNat + (byteAt row (2 * i + 1)).toNat
  else
    let bit := i * depth
    ((byteAt row (bit / 8)).toNat >>> (8 - depth - bit % 8)) % Nat.pow 2 depth

/-- A sample of fewer than eight bits on the scale of a byte; others as they are. -/
def scaled (depth n : Nat) : UInt16 :=
  UInt16.ofNat (if depth < 8 then n * (255 / (Nat.pow 2 depth - 1)) else n)

/-- The colour at a place of the palette; black where the palette has none. -/
def paletteColour (palette : ByteArray) (i : Nat) : Colour :=
  ⟨(byteAt palette (3 * i)).toUInt16, (byteAt palette (3 * i + 1)).toUInt16,
    (byteAt palette (3 * i + 2)).toUInt16⟩

/-- The pixel in a column of a row. -/
def pixel (h : Header) (palette : ByteArray) (row : ByteArray) (column : Nat) : Colour :=
  let light (channel : Nat) : UInt16 :=
    scaled h.depth (sample h.depth row (column * h.colourType.channels + channel))
  match h.colourType with
  | .grey | .greyAlpha => Colour.grey (light 0)
  | .colour | .colourAlpha => ⟨light 0, light 1, light 2⟩
  | .palette => paletteColour palette (sample h.depth row column)

/-- The pixel in a column of a row of the image, from the pass that has sent it. -/
def pixelAt (h : Header) (palette : ByteArray) (passes : List (Pass × Array ByteArray))
    (x y : Nat) : Colour :=
  match passes.find? fun (p, _) =>
      p.left ≤ x && p.top ≤ y && (x - p.left) % p.stepX == 0 && (y - p.top) % p.stepY == 0 with
  | some (p, rows) =>
    pixel h palette (rows.getD ((y - p.top) / p.stepY) ByteArray.empty) ((x - p.left) / p.stepX)
  | none => Colour.grey 0

/-- The compressed samples in a run of chunks. More must follow the run than its chunks: at least
the size and the kind of another chunk. -/
def samples? (file : ByteArray) (place : Nat) (read : ByteArray) : Option ByteArray :=
  match bytesAt? file (place + 4) 4 with
  | none => none
  | some kind =>
    if kind = samplesKind then
      match chunk? file place with
      | none => none
      | some (chunk, next) =>
        if !chunk.sound then none
        else if _further : place < next ∧ place < file.size then
          samples? file next (read ++ chunk.content)
        else none
    else some read
termination_by file.size - place

/-- The palette, if the file has one, and the place of the first samples. Chunks that need not be
understood are passed over, sound or not. -/
def paletteAndSamples? (file : ByteArray) (place : Nat) (palette : Option ByteArray) :
    Option (Option ByteArray × Nat) :=
  if bytesAt? file (place + 4) 4 = some samplesKind then some (palette, place)
  else
    match chunk? file place with
    | none => none
    | some (chunk, next) =>
      if _further : place < next ∧ place < file.size then
        if !chunk.isCritical then paletteAndSamples? file next palette
        else if chunk.kind = paletteKind ∧ chunk.sound ∧ palette.isNone ∧
            chunk.content.size ≤ 768 ∧ chunk.content.size % 3 = 0 then
          paletteAndSamples? file next (some chunk.content)
        else none
      else none
termination_by file.size - place

/-- The bytes that every file begins with. -/
def signature : List UInt8 := [0x89, 0x50, 0x4e, 0x47, 0x0d, 0x0a, 0x1a, 0x0a]

/-- The image in a file. -/
def decode? (file : ByteArray) : Option Image := do
  if !startsWith file signature then none
  let (first, place) ← chunk? file 8
  if first.kind ≠ headerKind ∨ !first.sound then none
  let header ← Header.read? first.content
  let (palette, place) ← paletteAndSamples? file place none
  if header.colourType = .palette ∧ palette.isNone then none
  let data ← Deflate.inflate? (← samples? file place ByteArray.empty)
  if data.size < header.passes.foldl (fun total p => total + p.size header) 0 then none
  let passes ← passRows? header data header.passes 0
  return {
    deep := header.depth == 16
    raster := Raster.generate header.width header.height fun x y _ _ =>
      pixelAt header (palette.getD ByteArray.empty) passes x y }

end CameraRoll.Png
