import CameraRoll.Json.Number
import CameraRoll.Json.Quoted

/-!
Writing JSON values: one item or member a line, two blanks more for each level.
-/

namespace CameraRoll.Json

open CameraRoll.Text

/-- A line break and the blanks of a level. -/
def newline (level : Nat) : List Char := '\n' :: List.replicate (2 * level) ' '

mutual

/-- A value at a level. -/
def write (level : Nat) : JsonValue → List Char
  | .null => "null".toList
  | .bool true => "true".toList
  | .bool false => "false".toList
  | .whole n => wholeText n
  | .real x => floatText realStyle x
  | .text s => quote s.toList
  | .array [] => ['[', ']']
  | .array (item :: items) =>
    '[' :: newline (level + 1) ++ write (level + 1) item ++ writeItems (level + 1) items
      ++ newline level ++ [']']
  | .object [] => ['{', '}']
  | .object ((key, value) :: members) =>
    '{' :: newline (level + 1) ++ quote key.toList ++ ':' :: ' ' :: write (level + 1) value
      ++ writeMembers (level + 1) members ++ newline level ++ ['}']

/-- Items behind the first one. -/
def writeItems (level : Nat) : List JsonValue → List Char
  | [] => []
  | item :: items => ',' :: newline level ++ write level item ++ writeItems level items

/-- Members behind the first one. -/
def writeMembers (level : Nat) : List (String × JsonValue) → List Char
  | [] => []
  | (key, value) :: members =>
    ',' :: newline level ++ quote key.toList ++ ':' :: ' ' :: write level value
      ++ writeMembers level members

end

end CameraRoll.Json

namespace CameraRoll.JsonValue

/-- The value as a text. -/
def render (value : JsonValue) : String := String.ofList (Json.write 0 value)

end CameraRoll.JsonValue
