import CameraRoll.Naming.Canonical
import CameraRoll.Naming.Stamp
import CameraRoll.Text.WordCharacter

/-!
Rewriting older names into the canonical form. A name with the start of an image or video may carry
its duplicate index as `_2`, and videos may end in `.webm`; the oldest pictures are named by their
capture time in milliseconds.
-/

namespace CameraRoll.Naming

open CameraRoll.Calendar CameraRoll.Text

/-- Extension of videos in older names. -/
def legacyVideoExtension : String := ".webm"

/-- The parts of a stamped name: three word characters and the stamp, the duplicate index, the
extension with its dot. -/
structure NameParts where
  base : List Char
  index : Option (List Char)
  extension : List Char
  deriving DecidableEq, Repr

/-- Three word characters and a stamp at the front, and what follows. -/
def baseAt : List Char → Option (List Char × List Char)
  | a :: b :: c :: s =>
    if isWord a && isWord b && isWord c then
      (stampDigits s).map fun (date, time, rest) =>
        (a :: b :: c :: '_' :: date ++ '_' :: time, rest)
    else none
  | _ => none

/-- Nothing, or a dot and at least one character, none of them a line break. -/
def isExtension : List Char → Bool
  | [] => true
  | '.' :: c :: rest => (c :: rest).all (· != '\n')
  | _ => false

/-- A stamped name from here to the end of the text. -/
def partsAt (s : List Char) : Option NameParts := do
  let (base, rest) ← baseAt s
  if isExtension rest then return ⟨base, none, rest⟩
  match rest with
  | '_' :: rest =>
    let (digits, rest) := spanDigits rest
    if !digits.isEmpty && isExtension rest then return ⟨base, some digits, rest⟩ else none
  | _ => none

/-- Parts put together in the canonical form. -/
def NameParts.chars (parts : NameParts) : List Char :=
  let extension :=
    if parts.extension = legacyVideoExtension.toList then videoExtension.toList else parts.extension
  match parts.index with
  | some digits => parts.base ++ ' ' :: '(' :: digits ++ ')' :: extension
  | none => parts.base ++ extension

/-- The digits of the number in a name of the oldest scheme: the first run of digits with a
character that is no line break and a digit behind it, or else with three digits or more, of which
the last two are left out. -/
def legacyDigits : List Char → Option (List Char)
  | [] => none
  | c :: s =>
    if isDigit c then
      let (digits, rest) := spanDigits (c :: s)
      match rest with
      | d :: e :: _ =>
        if d != '\n' && isDigit e then some digits
        else if digits.length < 3 then legacyDigits s
        else some (digits.dropLast.dropLast)
      | _ =>
        if digits.length < 3 then legacyDigits s
        else some (digits.dropLast.dropLast)
    else legacyDigits s

/-- The instant in a name of the oldest scheme, if the calendar has it. -/
def legacyInstant (name : List Char) : Option Instant := do
  let millis ← readNumeral (← legacyDigits name)
  let instant : Instant := ⟨millis * 1000000⟩
  if (instant.wallClock 0).inRange then some instant else none

/-- The canonical form of a name given as characters. -/
def regulateChars (name : List Char) (zone : Zone) : List Char :=
  if (kindOfChars name).isPrimary then
    match leftmost partsAt name with
    | some parts => parts.chars
    | none => name
  else
    match legacyInstant name with
    | some instant => canonicalChars .image instant zone
    | none => name

/-- The canonical form of a name. Names that are canonical already, or follow no known scheme, stay
as they are. -/
def regulateName (name : String) (zone : Zone) : String :=
  String.ofList (regulateChars name.toList zone)

end CameraRoll.Naming
