/-!
Paths as texts: their parts, joining, and the directory above.
-/

namespace CameraRoll.Path

/-- A path from the root of the tree. -/
def isAbsolute (path : String) : Bool := path.toList.head? == some '/'

/-- The characters between slashes, from left to right. -/
def splitSlashes (s : List Char) : List (List Char) :=
  s.foldr
    (fun c parts =>
      if c = '/' then [] :: parts
      else match parts with
        | part :: rest => (c :: part) :: rest
        | [] => [[c]])
    [[]]

/-- The parts of a path that name something: all but the empty ones and the lone dots. -/
def parts (path : String) : List String :=
  ((splitSlashes path.toList).filter fun part => !part.isEmpty && part != ['.']).map String.ofList

/-- The path of `name` below the directory `base`; an absolute name stands for itself. -/
def join (base name : String) : String :=
  if isAbsolute name || base.isEmpty then name
  else if base.toList.getLast? == some '/' then base ++ name
  else base ++ "/" ++ name

/-- The path with these parts, from the root of the tree if it is absolute. -/
def ofParts (absolute : Bool) (parts : List String) : String :=
  (if absolute then "/" else "") ++ String.intercalate "/" parts

/-- The directory above a path; the root has none, and the empty path neither. -/
def parent? (path : String) : Option String :=
  match parts path with
  | [] => none
  | part :: rest => some (ofParts (isAbsolute path) (part :: rest).dropLast)

end CameraRoll.Path
