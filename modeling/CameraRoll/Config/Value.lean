/-!
Values that configuration sources give, and layering one value over another.
-/

namespace CameraRoll

/-- A value from a configuration source. -/
inductive ConfigValue where
  | bool (value : Bool)
  | integer (value : Int)
  /-- A number with a fraction or exponent. Nothing in a configuration is such a number, so that
  its value is not kept. -/
  | fractional
  | text (value : String)
  | char (value : Char)
  | list (items : List ConfigValue)
  | table (entries : List (String × ConfigValue))
  deriving Inhabited

/-- Entries with one put in the place of the entry of its key, or else at the end. -/
def putEntry {α : Type} (key : String) (value : α) : List (String × α) → List (String × α)
  | [] => [(key, value)]
  | (other, kept) :: rest =>
    if other = key then (key, value) :: rest else (other, kept) :: putEntry key value rest

namespace ConfigValue

mutual

/-- A value laid over another: tables are laid over each other entry by entry, anything else
replaces what is below. -/
def overlay (below : ConfigValue) : ConfigValue → ConfigValue
  | .table entries =>
    match below with
    | .table under => .table (entriesOver under entries)
    | _ => .table entries
  | above => above

def entriesOver (below : List (String × ConfigValue)) :
    List (String × ConfigValue) → List (String × ConfigValue)
  | [] => below
  | (key, value) :: rest =>
    let merged := match below.lookup key with
      | some old => overlay old value
      | none => value
    entriesOver (putEntry key merged below) rest

end

end ConfigValue

end CameraRoll
