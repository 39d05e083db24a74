import CameraRoll.Text.Hex
import CameraRoll.Text.Reader

/-!
Texts in TOML: basic ones with escapes between double quotes, literal ones between single quotes,
and both over several lines between triple quotes.
-/

namespace CameraRoll.Toml

open CameraRoll.Text

/-- A blank within a line. -/
def isBlank (c : Char) : Bool := c == ' ' || c == '\t'

/-- A character that may stand in comments: no control character but the tab. -/
def isPrintable (c : Char) : Bool := c == '\t' || (0x20 ≤ c.toNat && c.toNat != 0x7F)

/-- The text without the blanks at its front. -/
def skipBlanks (s : List Char) : List Char := s.dropWhile isBlank

/-- The rest of a text behind a line break. -/
def lineBreak? : List Char → Option (List Char)
  | '\n' :: s => some s
  | '\r' :: '\n' :: s => some s
  | _ => none

/-- The character that a letter behind a backslash stands for. -/
def unescape? (c : Char) : Option Char :=
  match c with
  | 'b' => some '\x08'
  | 't' => some '\t'
  | 'n' => some '\n'
  | 'f' => some '\x0c'
  | 'r' => some '\r'
  | '"' => some '"'
  | '\\' => some '\\'
  | _ => none

/-- The character of an escape, without its backslash: a letter, or `u` with four or `U` with eight
hexadecimal digits. -/
def escapeAt : Reader Char
  | 'u' :: a :: b :: c :: d :: s => (scalarOfHex? [a, b, c, d]).map (·, s)
  | 'U' :: a :: b :: c :: d :: e :: f :: g :: h :: s =>
    (scalarOfHex? [a, b, c, d, e, f, g, h]).map (·, s)
  | c :: s => (unescape? c).map (·, s)
  | [] => none

/-- A basic text of one line, behind its opening quote. -/
def basicText (s : List Char) : Option (List Char × List Char) :=
  match s with
  | [] => none
  | '"' :: rest => some ([], rest)
  | '\\' :: rest => do
    let (c, next) ← escapeAt rest
    if _shorter : next.length < rest.length + 1 then
      let (text, rest) ← basicText next
      return (c :: text, rest)
    else none
  | c :: rest =>
    if isPrintable c then (basicText rest).map fun (text, rest) => (c :: text, rest) else none
termination_by s.length

/-- A literal text of one line, behind its opening quote. -/
def literalText : Reader (List Char)
  | [] => none
  | c :: s =>
    if c = '\'' then some ([], s)
    else if isPrintable c then (literalText s).map fun (text, rest) => (c :: text, rest)
    else none

/-- The end of a text between triple quotes, at the first three of a run of quotes: of up to two
more quotes all but the last three of the run belong to the text. -/
def closingQuotes (quote : Char) : List Char → List Char × List Char
  | a :: b :: s =>
    if a = quote && b = quote then ([quote, quote], s)
    else if a = quote then ([quote], b :: s)
    else ([], a :: b :: s)
  | [a] => if a = quote then ([quote], []) else ([], [a])
  | [] => ([], [])

/-- The text without the blanks and line breaks at its front. -/
def skipLines : List Char → List Char
  | '\r' :: '\n' :: s => skipLines s
  | c :: s => if isBlank c || c = '\n' then skipLines s else c :: s
  | [] => []

/-- What follows a backslash at the end of a line: blanks, a line break, and then everything up to
the next character that is no blank and no line break. -/
def continuation? (s : List Char) : Option (List Char) := (lineBreak? (skipBlanks s)).map skipLines

/-- A text of several lines, behind its opening quotes. Line breaks are written as one character.
In a basic text there are escapes. -/
def longText (quote : Char) (s : List Char) : Option (List Char × List Char) :=
  match s with
  | [] => none
  | '\r' :: rest =>
    match rest with
    | '\n' :: rest => (longText quote rest).map fun (text, rest) => ('\n' :: text, rest)
    | _ => none
  | '\n' :: rest => (longText quote rest).map fun (text, rest) => ('\n' :: text, rest)
  | c :: rest =>
    if c = quote && rest.take 2 = [quote, quote] then some (closingQuotes quote (rest.drop 2))
    else if c = '\\' && quote = '"' then
      match continuation? rest with
      | some next =>
        if _shorter : next.length < rest.length + 1 then longText quote next else none
      | none => do
        let (e, next) ← escapeAt rest
        if _shorter : next.length < rest.length + 1 then
          let (text, rest) ← longText quote next
          return (e :: text, rest)
        else none
    else if isPrintable c then
      (longText quote rest).map fun (text, rest) => (c :: text, rest)
    else none
termination_by s.length

/-- A text without the line break at its front. -/
def dropLineBreak (s : List Char) : List Char := (lineBreak? s).getD s

/-- A text of any of the four forms. -/
def textAt : Reader String
  | '"' :: '"' :: '"' :: s => (longText '"' (dropLineBreak s)).map (Prod.map String.ofList id)
  | '\'' :: '\'' :: '\'' :: s => (longText '\'' (dropLineBreak s)).map (Prod.map String.ofList id)
  | '"' :: s => (basicText s).map (Prod.map String.ofList id)
  | '\'' :: s => (literalText s).map (Prod.map String.ofList id)
  | _ => none

end CameraRoll.Toml
