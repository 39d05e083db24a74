import CameraRoll.Json.Token

/-!
Reading JSON values: tokens are taken one by one by a machine with a stack of unfinished arrays and
objects.
-/

namespace CameraRoll.Json

/-- An unfinished array, object, or object with the key of the member that comes next. Items stand
in reverse. -/
inductive Frame where
  | array (items : List JsonValue)
  | object (members : List (String × JsonValue))
  | member (members : List (String × JsonValue)) (key : String)

/-- What has to come next. -/
inductive Phase where
  /-- A value, or the end of the array if that is allowed. -/
  | item (mayClose : Bool)
  /-- A key, or the end of the object if that is allowed. -/
  | key (mayClose : Bool)
  | colon
  /-- A comma or the end of what this value stands in. -/
  | done (value : JsonValue)

/-- The machine's state: what comes next, and the unfinished arrays and objects, innermost first. -/
structure Machine where
  phase : Phase
  frames : List Frame

/-- Most arrays and objects around a value. -/
def maxNesting : Nat := 127

/-- Opens an array or object, if it does not stand too deep. -/
def Machine.enter (machine : Machine) (phase : Phase) (frame : Frame) : Option Machine :=
  if machine.frames.length < maxNesting then some ⟨phase, frame :: machine.frames⟩ else none

def Machine.step (machine : Machine) (token : Token) : Option Machine :=
  match machine.phase, token, machine.frames with
  | .item _, .scalar value, frames => some ⟨.done value, frames⟩
  | .item _, .openArray, _ => machine.enter (.item true) (.array [])
  | .item _, .openObject, _ => machine.enter (.key true) (.object [])
  | .item true, .closeArray, .array items :: frames => some ⟨.done (.array items.reverse), frames⟩
  | .key _, .scalar (.text key), .object members :: frames =>
    some ⟨.colon, .member members key :: frames⟩
  | .key true, .closeObject, .object members :: frames => some ⟨.done (.object members), frames⟩
  | .colon, .colon, frames => some ⟨.item false, frames⟩
  | .done value, .comma, .array items :: frames =>
    some ⟨.item false, .array (value :: items) :: frames⟩
  | .done value, .closeArray, .array items :: frames =>
    some ⟨.done (.array (value :: items).reverse), frames⟩
  | .done value, .comma, .member members key :: frames =>
    some ⟨.key false, .object (insertMember key value members) :: frames⟩
  | .done value, .closeObject, .member members key :: frames =>
    some ⟨.done (.object (insertMember key value members)), frames⟩
  | _, _, _ => none

/-- The machine before the first token. -/
def Machine.start : Machine := ⟨.item false, []⟩

/-- The value that a machine has finished. -/
def Machine.value? (machine : Machine) : Option JsonValue :=
  match machine.phase, machine.frames with
  | .done value, [] => some value
  | _, _ => none

/-- The value that tokens make up. -/
def ofTokens? (tokens : List Token) : Option JsonValue := do
  (← tokens.foldlM Machine.step Machine.start).value?

/-- The value that a text of characters denotes. -/
def ofChars? (s : List Char) : Option JsonValue := do ofTokens? (← tokens s)

end CameraRoll.Json

namespace CameraRoll.JsonValue

/-- The value that bytes denote: a text in UTF-8 with one value in it. -/
def read? (bytes : ByteArray) : Option JsonValue := do
  Json.ofChars? (← String.fromUTF8? bytes).toList

end CameraRoll.JsonValue
