import CameraRoll.Config.Value
import CameraRoll.Text.Blank
import CameraRoll.Text.Digit
import CameraRoll.Text.Hex
import CameraRoll.Text.Numeral
import CameraRoll.Text.Reader

/-!
Environment variables as a source of configuration. The name says which entry is meant; two
underscores lead into a table. The value is read in a small notation of its own, and is a plain
text if it does not follow that.
-/

namespace CameraRoll.Environment

open CameraRoll.Text

/-- Start of the names that count, in which case does not matter. -/
def nameStart : String := "SHUTTER_"

/-- A blank of ASCII, the vertical tab excepted. -/
def isAsciiBlank (c : Char) : Bool := c = ' ' || c = '\t' || c = '\n' || c = '\r' || c = '\x0c'

/-- The text without the blanks at its front. -/
def skipBlanks (s : List Char) : List Char := s.dropWhile isAsciiBlank

/-- A character that ends an unquoted text. -/
def isMark (c : Char) : Bool := c = ',' || c = '\x7b' || c = '\x7d' || c = '[' || c = ']'

/-- The text up to the closing quote. A backslash takes the next character along. -/
def quotedSpan : Reader (List Char)
  | [] => none
  | '"' :: s => some ([], s)
  | '\\' :: c :: s => (quotedSpan s).map fun (text, rest) => ('\\' :: c :: text, rest)
  | c :: s => (quotedSpan s).map fun (text, rest) => (c :: text, rest)

/-- The character that a letter behind a backslash stands for. -/
def unescape? (c : Char) : Option Char :=
  match c with
  | '"' => some '"'
  | '\\' => some '\\'
  | 'b' => some '\x08'
  | 'f' => some '\x0c'
  | 'n' => some '\n'
  | 'r' => some '\r'
  | 't' => some '\t'
  | _ => none

/-- A text between quotes with its escapes replaced. Control characters other than the tab may not
stand in it. -/
def unescape : List Char → Option (List Char)
  | [] => some []
  | '\\' :: 'u' :: a :: b :: c :: d :: s => do
    return (← scalarOfHex? [a, b, c, d]) :: (← unescape s)
  | '\\' :: 'U' :: a :: b :: c :: d :: e :: f :: g :: h :: s => do
    return (← scalarOfHex? [a, b, c, d, e, f, g, h]) :: (← unescape s)
  | '\\' :: c :: s => do return (← unescape? c) :: (← unescape s)
  | c :: s =>
    if c = '\\' then none
    else if c = '\t' || (0x20 ≤ c.toNat && c.toNat != 0x7F) then (unescape s).map (c :: ·)
    else none

/-- A text between quotes, behind the first one. -/
def quotedAt (s : List Char) : Option (String × List Char) := do
  let (span, rest) ← quotedSpan s
  return (String.ofList (← unescape span), rest)

/-- A key in braces: quoted, or of letters, digits, underscores and hyphens. -/
def keyAt : Reader String
  | '"' :: s => quotedAt s
  | s =>
    let plain (c : Char) := c.isAlphanum || c = '_' || c = '-'
    let key := s.takeWhile plain
    if key.isEmpty then none else some (String.ofList key, s.dropWhile plain)

/-- Digits with a point among them, an optional sign and an optional exponent. -/
def isDecimal (s : List Char) : Bool :=
  let unsigned (s : List Char) := match s with
    | '+' :: s | '-' :: s => s
    | s => s
  let s := unsigned s
  let front := s.takeWhile isAsciiDigit
  match s.dropWhile isAsciiDigit with
  | '.' :: s =>
    let back := s.takeWhile isAsciiDigit
    let exponent := match s.dropWhile isAsciiDigit with
      | [] => true
      | c :: s => (c = 'e' || c = 'E') && (readNumeral (unsigned s)).isSome
    (!front.isEmpty || !back.isEmpty) && exponent
  | _ => false

/-- A whole number of 64 bits, signed or not. -/
def whole? (s : List Char) : Option Int :=
  match s with
  | '-' :: digits => (readNumeralUpTo (maxSigned64 + 1) digits).map fun n => -(n : Int)
  | '+' :: digits => (readNumeralUpTo maxWord64 digits).map Int.ofNat
  | digits => (readNumeralUpTo maxWord64 digits).map Int.ofNat

/-- The meaning of an unquoted text. -/
def plain (s : List Char) : ConfigValue :=
  if isDecimal s then .fractional
  else match whole? s with
    | some n => .integer n
    | none => .text (String.ofList s)

/-- An unquoted value, up to the next mark. -/
def plainAt (s : List Char) : ConfigValue × List Char :=
  (plain (trimBlanks (s.takeWhile (!isMark ·))), s.dropWhile (!isMark ·))

/-- A key, an equals sign and a value. -/
def pairAt (value : Reader ConfigValue) (s : List Char) :
    Option ((String × ConfigValue) × List Char) := do
  let (key, rest) ← keyAt (skipBlanks s)
  match skipBlanks rest with
  | '=' :: rest =>
    let (value, rest) ← value rest
    return ((key, value), rest)
  | _ => none

/-- A value that starts with no blank. -/
def bareValueAt (nested : Reader ConfigValue) (s : List Char) :
    Option (ConfigValue × List Char) :=
  match s with
  | 't' :: 'r' :: 'u' :: 'e' :: rest => some (.bool true, rest)
  | 'f' :: 'a' :: 'l' :: 's' :: 'e' :: rest => some (.bool false, rest)
  | '\x7b' :: rest => do
    let (pairs, rest) ← untilClosed '\x7d' some (pairAt nested) rest
    return (.table (pairs.foldl (fun entries (key, value) => putEntry key value entries) []), rest)
  | '[' :: rest => (untilClosed ']' some nested rest).map (Prod.map .list id)
  | '"' :: rest => (quotedAt rest).map (Prod.map .text id)
  | '\'' :: rest =>
    match rest with
    | c :: '\'' :: rest => some (.char c, rest)
    | _ => none
  | s => some (plainAt s)

/-- A value with at most so many lists and tables around each other. -/
def valueAt : (nesting : Nat) → Reader ConfigValue
  | 0, _ => none
  | nesting + 1, s =>
    (bareValueAt (valueAt nesting) (skipBlanks s)).map fun (value, rest) =>
      (value, skipBlanks rest)

/-- The meaning of a variable's value. -/
def valueOf (text : String) : ConfigValue :=
  let s := text.toList
  match valueAt (s.length + 1) s with
  | some (value, []) => value
  | _ => .text text

/-- A text with every two underscores replaced by a dot. -/
def dotted : List Char → List Char
  | '_' :: '_' :: s => '.' :: dotted s
  | c :: s => c :: dotted s
  | [] => []

def splitDots (s : List Char) : List (List Char) :=
  s.foldr
    (fun c parts =>
      if c = '.' then [] :: parts
      else match parts with
        | part :: rest => (c :: part) :: rest
        | [] => [[c]])
    [[]]

/-- The path of keys that a name means, if it counts and none of the keys is empty. -/
def pathOf (name : String) : Option (List String) := do
  let lower (s : List Char) := s.map Char.toLower
  let rest ← literal (lower nameStart.toList) (lower (trimBlanks name.toList))
  let parts := splitDots (trimBlanks (dotted rest))
  if parts.any (·.isEmpty) then none else return parts.map String.ofList

/-- A value under a path of keys. -/
def nest (value : ConfigValue) : List String → ConfigValue
  | [] => value
  | key :: path => .table [(key, nest value path)]

/-- All variables that count, later ones laid over earlier ones. -/
def layer (environment : List (String × String)) : ConfigValue :=
  environment.foldl
    (fun below (name, text) =>
      match pathOf name with
      | some path => below.overlay (nest (valueOf text) path)
      | none => below)
    (.table [])

end CameraRoll.Environment
