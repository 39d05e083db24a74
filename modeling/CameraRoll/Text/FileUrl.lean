import CameraRoll.Disk.Path

/-!
URLs of files: the parts of an absolute path with all bytes escaped that may not stand in a path
segment.
-/

namespace CameraRoll.FileUrl

/-- The bytes that are escaped in a segment: controls, all beyond ASCII, blank and
`" # % / < > ? \ backquote { }`. -/
def isEscaped (b : UInt8) : Bool :=
  b < 0x20 || 0x7F ≤ b ||
    [0x20, 0x22, 0x23, 0x25, 0x2F, 0x3C, 0x3E, 0x3F, 0x5C, 0x60, 0x7B, 0x7D].contains b

/-- Hexadecimal digit below sixteen, upper case. -/
def hexDigit (n : Nat) : Char := Char.ofNat (if n < 10 then 48 + n else 55 + n)

/-- One byte of a segment. -/
def escape (b : UInt8) : List Char :=
  if isEscaped b then ['%', hexDigit (b.toNat / 16), hexDigit (b.toNat % 16)]
  else [Char.ofNat b.toNat]

/-- One part of a path. -/
def segment (part : String) : List Char := part.toUTF8.data.toList.flatMap escape

/-- The URL of an absolute path; other paths have none. -/
def ofPath? (path : String) : Option String :=
  if Path.isAbsolute path then
    match Path.parts path with
    | [] => some "file:///"
    | parts => some ("file://" ++ String.ofList (parts.flatMap fun part => '/' :: segment part))
  else none

end CameraRoll.FileUrl
