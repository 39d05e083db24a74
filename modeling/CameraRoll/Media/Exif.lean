import CameraRoll.Media.ByteOrder

/-!
The orientation that an image file carries in its EXIF block: a tree of directories with numbered
entries, embedded in a JPEG segment or a PNG chunk, or a file of its own. A block with any directory
that cannot be read has no orientation.
-/

namespace CameraRoll.Exif

/-- What the entries of a directory describe. -/
inductive Subject where
  | picture
  | exposure
  | position
  | interoperability
  deriving DecidableEq, Repr

/-- How many further directories can hang below one another. -/
def Subject.depth : Subject → Nat
  | .picture => 2
  | .exposure => 1
  | .position | .interoperability => 0

/-- The subject of the directory to which an entry with this tag points, if it points to one. -/
def Subject.child? (subject : Subject) (tag : Nat) :
    Option { child : Subject // child.depth < subject.depth } :=
  match subject, tag with
  | .picture, 0x8769 => some ⟨.exposure, by decide⟩
  | .picture, 0x8825 => some ⟨.position, by decide⟩
  | .exposure, 0xa005 => some ⟨.interoperability, by decide⟩
  | _, _ => none

/-- An entry of a directory: values of one type that start somewhere in the block. -/
structure Entry where
  tag : Nat
  type : Nat
  count : Nat
  start : Nat
  deriving DecidableEq, Repr

/-- Bytes taken by one value of a type; zero for types that are unknown. -/
def valueSize : (type : Nat) → Nat
  | 1 | 2 | 6 | 7 => 1
  | 3 | 8 => 2
  | 4 | 9 | 11 => 4
  | 5 | 10 | 12 => 8
  | _ => 0

/-- The entry at a place in the block. Values of at most four bytes stand in the entry itself. -/
def entry? (order : ByteOrder) (block : ByteArray) (place : Nat) : Option Entry := do
  let tag ← order.number? block place 2
  let type ← order.number? block (place + 2) 2
  let count ← order.number? block (place + 4) 4
  let pointer ← order.number? block (place + 8) 4
  let size := valueSize type * count
  if size ≤ 4 then return ⟨tag, type, count, place + 8⟩
  else if pointer + size ≤ block.size then return ⟨tag, type, count, pointer⟩
  else none

/-- The first value of an entry, if it is a whole number without sign. -/
def Entry.number? (order : ByteOrder) (block : ByteArray) (e : Entry) : Option Nat :=
  if e.count = 0 then none
  else match e.type with
    | 1 => order.number? block e.start 1
    | 3 => order.number? block e.start 2
    | 4 => order.number? block e.start 4
    | _ => none

/-- The next `count` entries of a directory. Directories that hang below it must be readable too,
and none may follow them. -/
def entries? (order : ByteOrder) (block : ByteArray) (subject : Subject) :
    (place count : Nat) → Option (List Entry)
  | _, 0 => some []
  | place, count + 1 => do
    let entry ← entry? order block place
    match subject.child? entry.tag with
    | none =>
      let rest ← entries? order block subject (place + 12) count
      return entry :: rest
    | some ⟨child, _⟩ =>
      let below ← entry.number? order block
      let size ← order.number? block below 2
      let _ ← entries? order block child (below + 2) size
      let next ← order.number? block (below + 2 + 12 * size) 4
      if next = 0 then entries? order block subject (place + 12) count else none
termination_by _ count => (subject.depth, count)

/-- The directories of a block that follow one another from a place on, each with the place of the
next; there may be at most `limit`. -/
def directories? (order : ByteOrder) (block : ByteArray) :
    (limit place : Nat) → Option (List (List Entry))
  | _, 0 => some []
  | 0, _ => none
  | limit + 1, place => do
    let size ← order.number? block place 2
    let entries ← entries? order block .picture (place + 2) size
    let next ← order.number? block (place + 2 + 12 * size) 4
    let rest ← directories? order block limit next
    return entries :: rest

/-- The byte order that the first bytes of a block announce. -/
def byteOrder? (block : ByteArray) : Option ByteOrder :=
  if startsWith block [0x4d, 0x4d, 0x00, 0x2a] then some .greatestFirst
  else if startsWith block [0x49, 0x49, 0x2a, 0x00] then some .leastFirst
  else none

/-- The tag of the entry that holds the orientation. -/
def orientationTag : Nat := 0x112

/-- The orientation in a block: of the entries of the first directory that hold one, the last. -/
def orientationIn? (block : ByteArray) : Option Nat := do
  let order ← byteOrder? block
  let place ← order.number? block 4 4
  let first ← (← directories? order block 8 place).head?
  let entry ← (first.filter (·.tag == orientationTag)).getLast?
  entry.number? order block

/-- The block in a JPEG file: what follows the identifier in the first segment of its kind. Walking
the file passes over data that belong to no segment. -/
def inJpeg? (file : ByteArray) (place : Nat) : Option ByteArray :=
  if inside : place + 1 < file.size then
    let first := file.get place
    let kind := file.get (place + 1)
    if first ≠ 0xff ∨ kind = 0xff then inJpeg? file (place + 1)
    else if kind = 0 ∨ kind = 1 ∨ (0xd0 ≤ kind ∧ kind ≤ 0xd7) then inJpeg? file (place + 2)
    else if kind = 0xd8 ∨ kind = 0xd9 then none
    else
      match ByteOrder.greatestFirst.number? file (place + 2) 2 with
      | none => none
      | some size =>
        let next := place + 2 + size
        if size < 2 ∨ file.size < next then none
        else if kind = 0xe1 ∧ 8 ≤ size ∧
            bytesAt? file (place + 4) 6 = some [0x45, 0x78, 0x69, 0x66, 0, 0] then
          some (file.extract (place + 10) next)
        else inJpeg? file next
  else none
termination_by file.size - place

/-- The block in a PNG file: the content of the first chunk of its kind. -/
def inPng? (file : ByteArray) (place : Nat) : Option ByteArray :=
  match ByteOrder.greatestFirst.number? file place 4, bytesAt? file (place + 4) 4 with
  | some size, some kind =>
    if file.size < place + 8 + size then none
    else if kind = [0x65, 0x58, 0x49, 0x66] then
      some (file.extract (place + 8) (place + 8 + size))
    else inPng? file (place + 12 + size)
  | _, _ => none
termination_by file.size - place

/-- The EXIF block of an image file. -/
def block? (file : ByteArray) : Option ByteArray :=
  if (byteOrder? file).isSome then some file
  else if startsWith file [0xff, 0xd8, 0xff] then inJpeg? file 2
  else if startsWith file [0x89, 0x50, 0x4e, 0x47, 0x0d, 0x0a, 0x1a, 0x0a] then inPng? file 8
  else none

end CameraRoll.Exif

namespace CameraRoll

/-- The orientation number that an image file carries, whatever its value, for the files in which
`Exif.block?` finds it: JPEG, PNG, and files that are nothing else. -/
def orientationNumber? (file : ByteArray) : Option Nat :=
  Exif.block? file >>= Exif.orientationIn?

end CameraRoll
