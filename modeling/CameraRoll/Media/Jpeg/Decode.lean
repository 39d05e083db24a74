import CameraRoll.Media.Colour
import CameraRoll.Media.Jpeg.Segment

/-!
Reading JPEG files: segments up to a scan, then the scan itself, block by block. Bits that a scan
lacks count as zeros, and rows of units that begin far behind its end stay black.
-/

namespace CameraRoll.Jpeg

/-- A component with all that is needed to read its blocks. -/
structure Channel where
  component : Component
  divisors : Block
  means : PrefixCode
  waves : PrefixCode

/-- The number that bits stand for behind their size; without a leading one they are those of a
negative number's amount, exchanged. -/
def signedNumber (size bits : Nat) : Int :=
  if size = 0 then 0
  else if bits < Nat.pow 2 (size - 1) then (bits : Int) - (Nat.pow 2 size - 1 : Nat)
  else bits

/-- A number of a given size at a position, and the position behind it. -/
def signed? (bits : Bits) (pos size : Nat) : Option (Int × Nat) :=
  (bits.falling? pos size 0).map fun n => (signedNumber size n, pos + size)

/-- Reads frequencies into the places of a block. -/
def waves? (bits : Bits) (code : PrefixCode) (places : List (Fin 64)) (pos : Nat) (b : Block) :
    Option (Block × Nat) :=
  match places with
  | [] => some (b, pos)
  | first :: rest =>
    match code.decode? bits pos with
    | none => none
    | some (symbol, pos) =>
      let run := symbol / 16
      let size := symbol % 16
      if size = 0 then
        if run = 15 then waves? bits code (rest.drop 15) pos b else some (b, pos)
      else
        match signed? bits pos size with
        | none => none
        | some (n, pos) =>
          let place := ((first :: rest).drop run).headD 63
          waves? bits code (rest.drop run) pos (b.set place n)
termination_by places.length

/-- The frequencies of the next block, of which the mean is given as a step from the one before. -/
def block? (bits : Bits) (channel : Channel) (before : Int) (pos : Nat) :
    Option (Block × Nat) := do
  let (size, pos) ← channel.means.decode? bits pos
  let (step, pos) ← signed? bits pos (size % 16)
  waves? bits channel.waves Block.zigzag.tail pos
    (Block.flat (before + step))

/-- Samples of a component, block by block, in rows of a given number of blocks. -/
structure Plane where
  stride : Nat
  blocks : Array Block

/-- The sample in a column of a row. -/
def Plane.at (p : Plane) (x y : Nat) : Int :=
  let b := p.blocks.getD (y / 8 * p.stride + x / 8) (Vector.replicate 64 128)
  b.toArray.getD (8 * (y % 8) + x % 8) 0

/-- Where reading a scan stands: the position of the next bit, the last mean of each channel, and
the planes. -/
structure ScanCursor where
  pos : Nat
  means : Array Int
  planes : Array Plane

/-- Reads the block of a channel that belongs in a column of a row of blocks. -/
def readBlock? (bits : Bits) (channel : Channel) (index column row : Nat) (c : ScanCursor) :
    Option ScanCursor := do
  let (b, pos) ← block? bits channel (c.means.getD index 0) c.pos
  let samples := Block.samples (b.zipWith (· * ·) channel.divisors)
  return {
    pos
    means := c.means.setIfInBounds index b.mean
    planes := c.planes.modify index fun p =>
      { p with blocks := p.blocks.setIfInBounds (row * p.stride + column) samples } }

/-- Reads the unit in a column of a row of units: for every channel a small rectangle of blocks. -/
def readUnit? (bits : Bits) (channels : List Channel) (column row : Nat) (c : ScanCursor) :
    Option ScanCursor :=
  channels.zipIdx.foldlM
    (fun c (channel, index) =>
      let across := channel.component.across
      let down := channel.component.down
      (List.range (across * down)).foldlM
        (fun c i => readBlock? bits channel index (column * across + i % across)
          (row * down + i / across) c) c)
    c

/-- The bytes of a scan from a place on, up to a marker: restarts part them. Zeros that protect a
byte of ones are dropped. -/
def scanBytes (file : ByteArray) (place : Nat) (bytes : ByteArray) (before : Array ByteArray) :
    Array ByteArray × Nat :=
  if inside : place < file.size then
    let b := file[place]
    if b ≠ 0xff then scanBytes file (place + 1) (bytes.push b) before
    else
      let next := byteAt file (place + 1)
      if next = 0 ∧ place + 1 < file.size then
        scanBytes file (place + 2) (bytes.push b) before
      else if next = 0xff then scanBytes file (place + 1) bytes before
      else if 0xd0 ≤ next ∧ next ≤ 0xd7 then
        scanBytes file (place + 2) ByteArray.empty (before.push bytes)
      else (before.push bytes, place)
  else (before.push bytes, place)
termination_by file.size - place

/-- How far behind the end of the data, in bytes, a row of units may begin. -/
def patience : Nat := 37

/-- Reads units, the first of which has a given index, and tells how many rows are complete. -/
def readUnits? (parts : Array ByteArray) (interval across : Nat) (channels : List Channel)
    (first : Nat) : (count : Nat) → ScanCursor → Option (ScanCursor × Nat)
  | 0, c => some (c, first / across)
  | count + 1, c => do
    let part := if interval = 0 then 0 else first / interval
    let data := parts.getD part ByteArray.empty
    let c := if interval ≠ 0 ∧ first % interval = 0 then
        { c with pos := 0, means := c.means.map fun _ => 0 } else c
    if first % across = 0 ∧ 8 * (data.size + patience) < c.pos then return (c, first / across)
    else
      let c ← readUnit? ⟨data, true, true⟩ channels (first % across) (first / across) c
      readUnits? parts interval across channels (first + 1) count c

/-- The channel of a component that a scan names together with its codes. -/
def channel? (s : Preamble) (frame : Frame) (number tables : UInt8) : Option Channel := do
  let component ← frame.components.find? (·.number == number)
  let divisors ← s.divisors.lookup component.divisors
  let means ← s.means.lookup (tables.toNat / 16)
  let waves ← s.waves.lookup (tables.toNat % 16)
  return ⟨component, divisors, means, waves⟩

/-- The channels that a scan lists. -/
def channels? (s : Preamble) (frame : Frame) : List UInt8 → Option (List Channel)
  | number :: tables :: rest => do
    let channel ← channel? s frame number tables
    let others ← channels? s frame rest
    return channel :: others
  | _ => some []

/-- The colour with a brightness and two colour differences. -/
def colourOf (brightness blue red : Int) : Colour :=
  let y := brightness * 16384 + 8191
  let blue := blue - 128
  let red := red - 128
  let light (n : Int) : UInt16 := UInt16.ofNat (clampToByte (n >>> (14 : Nat))).toNat
  ⟨light (y + red * 22970), light (y - 11700 * red - 5638 * blue), light (y + blue * 29032)⟩

/-- The image that planes make, of which so many rows are known. -/
def imageOf (frame : Frame) (planes : List (Component × Plane)) (known : Nat) : Image :=
  let across := frame.across
  let down := frame.down
  { deep := false
    raster := Raster.generate frame.width frame.height fun x y _ _ =>
      let sample : Component × Plane → Int := fun (component, plane) =>
        plane.at (x * component.across / across) (y * component.down / down)
      if known ≤ y then Colour.grey 0
      else match planes with
        | [only] => Colour.grey (UInt16.ofNat (sample only).toNat)
        | [first, second, third] => colourOf (sample first) (sample second) (sample third)
        | _ => Colour.grey 0 }

/-- The first scan of a file: what is set before it, what its segment says, and where its data
stand. -/
structure Scan where
  preamble : Preamble
  content : List UInt8
  place : Nat

/-- The first scan behind a place. Bytes that belong to no segment are passed over. -/
def Scan.find? (file : ByteArray) (place : Nat) (s : Preamble) : Option Scan :=
  if inside : place + 1 < file.size then
    let kind := byteAt file (place + 1)
    if file[place] ≠ 0xff ∨ kind = 0xff then Scan.find? file (place + 1) s
    else if kind = 0 ∨ kind = 1 ∨ kind = 0xd8 ∨ (0xd0 ≤ kind ∧ kind ≤ 0xd7) then
      Scan.find? file (place + 2) s
    else if kind = 0xd9 then none
    else
      match ByteOrder.greatestFirst.number? file (place + 2) 2 with
      | none => none
      | some size =>
        match if size < 2 then none else bytesAt? file (place + 4) (size - 2) with
        | none => none
        | some content =>
          let next := place + 2 + size
          if kind = 0xda then some ⟨s, content, next⟩
          else match s.after? kind content with
            | none => none
            | some s => Scan.find? file next s
  else none
termination_by file.size - place

/-- The bytes that every file begins with. -/
def signature : List UInt8 := [0xff, 0xd8, 0xff]

/-- The first scan of a file. -/
def Scan.ofFile? (file : ByteArray) : Option Scan :=
  if startsWith file signature then Scan.find? file 2 Preamble.none else none

/-- Width and height of the image in a file. -/
def dimensions? (file : ByteArray) : Option (Nat × Nat) := do
  let frame ← (← Scan.ofFile? file).preamble.frame
  return (frame.width, frame.height)

/-- The image in a scan of all components. -/
def Scan.image? (file : ByteArray) (scan : Scan) : Option Image := do
  let frame ← scan.preamble.frame
  let count ← scan.content.head?
  let channels ← channels? scan.preamble frame (scan.content.tail.take (2 * count.toNat))
  if channels.length ≠ frame.components.length then none
  let (parts, _) := scanBytes file scan.place ByteArray.empty #[]
  let planes := channels.map fun channel =>
    let stride := frame.unitsAcross * channel.component.across
    (⟨stride, Array.replicate (stride * (frame.unitsDown * channel.component.down))
      (Vector.replicate 64 128)⟩ : Plane)
  let cursor : ScanCursor := ⟨0, Array.replicate channels.length 0, planes.toArray⟩
  let (cursor, rows) ← readUnits? parts scan.preamble.interval frame.unitsAcross channels 0
    (frame.unitsAcross * frame.unitsDown) cursor
  return imageOf frame ((channels.map (·.component)).zip cursor.planes.toList)
    (rows * 8 * frame.down)

/-- The image in a file, for files with a single scan of grey or of brightness and two colour
differences. There are other JPEG files, which this reader refuses. -/
def decode? (file : ByteArray) : Option Image := do
  (← Scan.ofFile? file).image? file

end CameraRoll.Jpeg
