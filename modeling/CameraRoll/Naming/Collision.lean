import CameraRoll.Naming.Regulation

/-!
The next name to try when a name is taken: `x.jpg`, `x (1).jpg`, `x (2).jpg` and so on. The index
is a number of 64 bits and stays at the largest one.
-/

namespace CameraRoll.Naming

open CameraRoll.Text

/-- The text before the first dot and the extension from it on. A name that starts with a dot, or
whose extension is a lone dot or holds a line break, has no extension. -/
def splitExtension (name : List Char) : List Char × List Char :=
  let base := name.takeWhile (· != '.')
  let extension := name.dropWhile (· != '.')
  if !base.isEmpty && isExtension extension then (base, extension) else (name, [])

/-- The text before a duplicate index at the very end, and the digits of the index. -/
def splitIndex (base : List Char) : Option (List Char × List Char) :=
  match base.reverse with
  | ')' :: back =>
    match spanDigits back with
    | ([], _) => none
    | (digits, '(' :: ' ' :: front) => some (front.reverse, digits.reverse)
    | _ => none
  | _ => none

/-- The text to which an index is attached, and the index it carries already (0 without one). An
index without a value of 64 bits belongs to the text. -/
def indexedBase (base : List Char) : List Char × Nat :=
  match splitIndex base with
  | some (front, digits) =>
    match readNumeralUpTo maxWord64 digits with
    | some index => (front, index)
    | none => (base, 0)
  | none => (base, 0)

/-- The characters of the next name. -/
def nextChars (name : List Char) : List Char :=
  let (base, extension) := splitExtension name
  let (front, index) := indexedBase base
  front ++ ' ' :: '(' :: numeral (min (index + 1) maxWord64) ++ ')' :: extension

/-- The next name to try after `name` turned out to be taken. -/
def nextName (name : String) : String := String.ofList (nextChars name.toList)

end CameraRoll.Naming
