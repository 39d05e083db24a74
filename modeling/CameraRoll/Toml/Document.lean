import CameraRoll.Config.Value
import CameraRoll.Toml.Number
import CameraRoll.Toml.Text

/-!
TOML documents: values, dotted keys, and tables that are opened by headers. A key stands for one
thing only: what was opened or given a value once cannot be so again.
-/

namespace CameraRoll.Toml

open CameraRoll.Text

/-- Entries of a table that is being built. -/
inductive Item where
  | value (value : ConfigValue)
  /-- A table; `implied` if only its inner tables or dotted keys were named so far, `dotted` if a
  dotted key made it. -/
  | table (implied dotted : Bool) (entries : List (String × Item))
  /-- Tables under one repeated header. -/
  | tables (elements : List (List (String × Item)))

/-- Entries of a table, in their order. -/
abbrev Entries := List (String × Item)

mutual

/-- The finished value of an item. -/
def Item.finish : Item → ConfigValue
  | .value value => value
  | .table _ _ entries => .table (finishEntries entries)
  | .tables elements => .list (finishElements elements)

/-- The finished values of entries. -/
def finishEntries : List (String × Item) → List (String × ConfigValue)
  | [] => []
  | (key, item) :: rest => (key, item.finish) :: finishEntries rest

/-- The finished tables of a repeated header. -/
def finishElements : List (List (String × Item)) → List ConfigValue
  | [] => []
  | entries :: rest => .table (finishEntries entries) :: finishElements rest

end

/-- Changes the last element of a list, if there is one. -/
def changeLast {α : Type} (f : α → Option α) : List α → Option (List α)
  | [] => none
  | [a] => (f a).map ([·])
  | a :: rest => (changeLast f rest).map (a :: ·)

/-- Gives a value to a dotted key: a path of tables and a key in the last of them. Tables on the
path are made if they are missing; tables that have headers of their own are closed to it. -/
def assign (key : String) (value : ConfigValue) : List String → Entries → Option Entries
  | [], entries =>
    if (entries.lookup key).isSome then none else some (putEntry key (.value value) entries)
  | first :: path, entries =>
    match entries.lookup first with
    | none => do
      let inner ← assign key value path []
      return putEntry first (.table true true inner) entries
    | some (.value _) => none
    | some (.table implied dotted inner) =>
      if !implied || (path.isEmpty && !dotted) then none
      else do
        let inner ← assign key value path inner
        return putEntry first (.table implied dotted inner) entries
    | some (.tables elements) =>
      if path.isEmpty then none
      else do
        let elements ← changeLast (assign key value path) elements
        return putEntry first (.tables elements) entries

/-- Applies a change to the entries that a header's path leads to. Tables on the way are made if
they are missing; of repeated tables the last one is taken. -/
def descend (f : Entries → Option Entries) : List String → Entries → Option Entries
  | [], entries => f entries
  | first :: path, entries =>
    match entries.lookup first with
    | none => do
      let inner ← descend f path []
      return putEntry first (.table true false inner) entries
    | some (.value _) => none
    | some (.table implied dotted inner) => do
      let inner ← descend f path inner
      return putEntry first (.table implied dotted inner) entries
    | some (.tables elements) => do
      let elements ← changeLast (descend f path) elements
      return putEntry first (.tables elements) entries

/-- Opens the table of a header. -/
def openTable (key : String) (entries : Entries) : Option Entries :=
  match entries.lookup key with
  | none => some (putEntry key (.table false false []) entries)
  | some (.table true false inner) => some (putEntry key (.table false false inner) entries)
  | _ => none

/-- Opens one more table of a repeated header. -/
def openElement (key : String) (entries : Entries) : Option Entries :=
  match entries.lookup key with
  | none => some (putEntry key (.tables [[]]) entries)
  | some (.tables elements) => some (putEntry key (.tables (elements ++ [[]])) entries)
  | _ => none

/-- A character that a key may have without quotes. -/
def isBareKeyChar (c : Char) : Bool :=
  isAsciiDigit c || ('a' ≤ c && c ≤ 'z') || ('A' ≤ c && c ≤ 'Z') || c = '_' || c = '-'

/-- One part of a key, with the blanks around it. -/
def keyPartAt (s : List Char) : Option (String × List Char) := do
  let (part, rest) ← match skipBlanks s with
    | '"' :: s => (basicText s).map (Prod.map String.ofList id)
    | '\'' :: s => (literalText s).map (Prod.map String.ofList id)
    | s =>
      let part := s.takeWhile isBareKeyChar
      if part.isEmpty then none else some (String.ofList part, s.dropWhile isBareKeyChar)
  return (part, skipBlanks rest)

/-- Most parts of a key. -/
def maxKeyParts : Nat := 79

/-- A key as its path and its last part. -/
def keyAt (s : List Char) : Option ((List String × String) × List Char) := do
  let (parts, rest) ← separated keyPartAt (charAt '.') s
  if maxKeyParts < parts.length then none
  else return ((parts.dropLast, ← parts.getLast?), rest)

/-- Skips blanks, line breaks and comments. -/
def skipFiller (inComment : Bool) : List Char → Option (List Char)
  | [] => some []
  | '\n' :: s => skipFiller false s
  | '\r' :: '\n' :: s => skipFiller false s
  | c :: s =>
    if inComment then (if isPrintable c then skipFiller true s else none)
    else if isBlank c then skipFiller false s
    else if c = '#' then skipFiller true s
    else some (c :: s)

/-- The end of a line behind an expression: blanks and a comment. -/
def lineEnd (s : List Char) : Option (List Char) :=
  let rest := match skipBlanks s with
    | '#' :: comment => comment.dropWhile isPrintable
    | rest => rest
  if rest.isEmpty then some [] else lineBreak? rest

/-- A key, an equals sign and a value. -/
def pairAt (value : Reader ConfigValue) (s : List Char) :
    Option ((List String × String × ConfigValue) × List Char) := do
  let ((path, key), rest) ← keyAt s
  let (value, rest) ← value (skipBlanks (← charAt '=' rest))
  return ((path, key, value), rest)

/-- The table that pairs within braces make up. -/
def inlineTable (pairs : List (List String × String × ConfigValue)) : Option ConfigValue := do
  let entries ← pairs.foldlM (fun entries (path, key, value) => assign key value path entries) []
  return .table (finishEntries entries)

/-- The pairs of an inline table, behind the opening brace. -/
def pairsAt (value : Reader ConfigValue) (s : List Char) :
    Option (List (List String × String × ConfigValue) × List Char) :=
  match skipBlanks s with
  | '}' :: rest => some ([], rest)
  | s => do
    let padded := fun s => (pairAt value s).map fun (pair, rest) => (pair, skipBlanks rest)
    let (pairs, rest) ← separated padded (charAt ',') s
    return (pairs, ← charAt '}' rest)

/-- A value without others in it. Dates and times count as tables: none of their parts is ever
asked for. -/
def scalarAt (s : List Char) : Option (ConfigValue × List Char) :=
  match textAt s with
  | some (text, rest) => some (.text text, rest)
  | none =>
    match literal "true".toList s, literal "false".toList s, momentAt s, fractionalAt s with
    | some rest, _, _, _ => some (.bool true, rest)
    | _, some rest, _, _ => some (.bool false, rest)
    | _, _, some (_, rest), _ => some (.table [], rest)
    | _, _, _, some (_, rest) => some (.fractional, rest)
    | _, _, _, _ => (integerAt s).map fun (n, rest) => (.integer n, rest)

/-- A value with at most so many lists and tables around each other. -/
def valueAt : (nesting : Nat) → Reader ConfigValue
  | 0, s => scalarAt s
  | nesting + 1, s =>
    match s with
    | '[' :: rest =>
      (untilClosed ']' (skipFiller false) (valueAt nesting) rest).map (Prod.map .list id)
    | '{' :: rest => do
      let (pairs, rest) ← pairsAt (valueAt nesting) rest
      return (← inlineTable pairs, rest)
    | _ => scalarAt s

/-- Most lists and tables around each other. -/
def maxNesting : Nat := 79

/-- A document up to here: all entries, and the header that is open. -/
structure Document where
  entries : Entries := []
  header : List String := []

/-- The document after the header of a table. -/
def Document.table (doc : Document) (path : List String) (key : String) (repeated : Bool) :
    Option Document := do
  let entries ← descend (if repeated then openElement key else openTable key) path doc.entries
  return ⟨entries, path ++ [key]⟩

/-- The document after a pair. -/
def Document.pair (doc : Document) (path : List String) (key : String) (value : ConfigValue) :
    Option Document := do
  let entries ← descend (assign key value path) doc.header doc.entries
  return { doc with entries := entries }

/-- The document after one expression: a header or a pair. -/
def Document.expression (doc : Document) (s : List Char) : Option (Document × List Char) :=
  match s with
  | '[' :: '[' :: rest => do
    let ((path, key), rest) ← keyAt rest
    let doc ← doc.table path key true
    return (doc, ← charAt ']' (← charAt ']' rest))
  | '[' :: rest => do
    let ((path, key), rest) ← keyAt rest
    let doc ← doc.table path key false
    return (doc, ← charAt ']' rest)
  | _ => do
    let ((path, key, value), rest) ← pairAt (valueAt maxNesting) s
    return (← doc.pair path key value, rest)

/-- The document after all expressions of a text. -/
def Document.read (doc : Document) (s : List Char) : Option Document :=
  match skipFiller false s with
  | none => none
  | some [] => some doc
  | some rest =>
    match doc.expression rest with
    | none => none
    | some (doc, rest) =>
      match lineEnd rest with
      | none => none
      | some next => if _shorter : next.length < s.length then doc.read next else none
termination_by s.length

/-- The table that a text denotes. A byte order mark at its front is skipped. -/
def table? (text : String) : Option ConfigValue := do
  let s := match text.toList with
    | '\uFEFF' :: s => s
    | s => s
  let doc ← Document.read {} s
  return .table (finishEntries doc.entries)

end CameraRoll.Toml
