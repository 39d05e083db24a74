/-!
Readers: functions that take something off the front of a text and give back what follows it.
-/

namespace CameraRoll.Text

/-- What stands at the front of a text, and what follows it. -/
abbrev Reader (α : Type) := List Char → Option (α × List Char)

/-- Items with separators between them; at least one. Reading goes on only as long as it takes
characters off the text. -/
def separated {α : Type} (item : Reader α) (separator : List Char → Option (List Char))
    (s : List Char) : Option (List α × List Char) :=
  match item s with
  | none => none
  | some (a, rest) =>
    match separator rest with
    | none => some ([a], rest)
    | some next =>
      if _shorter : next.length < s.length then
        (separated item separator next).map fun (items, rest) => (a :: items, rest)
      else none
termination_by s.length

/-- Items up to a closing character, with commas between them and, if it is there, behind the last
one. `gap` takes off what may stand around items. -/
def untilClosed {α : Type} (close : Char) (gap : List Char → Option (List Char)) (item : Reader α)
    (s : List Char) : Option (List α × List Char) :=
  match gap s with
  | none => none
  | some [] => none
  | some (c :: s') =>
    if c = close then some ([], s')
    else do
      let (a, rest) ← item (c :: s')
      match ← gap rest with
      | ',' :: next =>
        if _shorter : next.length < s.length then
          let (items, rest) ← untilClosed close gap item next
          return (a :: items, rest)
        else none
      | d :: rest => if d = close then return ([a], rest) else none
      | [] => none
termination_by s.length

/-- The digits of a number in which single underscores may stand between digits. -/
def moreDigits (digit : Char → Bool) : List Char → List Char × List Char
  | [] => ([], [])
  | '_' :: c :: s =>
    if digit c then
      let (digits, rest) := moreDigits digit s
      (c :: digits, rest)
    else ([], '_' :: c :: s)
  | c :: s =>
    if digit c then
      let (digits, rest) := moreDigits digit s
      (c :: digits, rest)
    else ([], c :: s)

/-- Such digits, starting with a digit. -/
def groupedDigits (digit : Char → Bool) : Reader (List Char)
  | [] => none
  | c :: s =>
    if digit c then
      let (digits, rest) := moreDigits digit s
      some (c :: digits, rest)
    else none

/-- A character or none of its kind, as a flag. -/
def optionalChar (accepted : Char → Bool) : List Char → Option Char × List Char
  | [] => (none, [])
  | c :: s => if accepted c then (some c, s) else (none, c :: s)

/-- A text that must stand at the front. -/
def literal : List Char → List Char → Option (List Char)
  | [], s => some s
  | c :: word, d :: s => if c = d then literal word s else none
  | _ :: _, [] => none

end CameraRoll.Text
