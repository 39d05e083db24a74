import CameraRoll.Text.Digit
import CameraRoll.Text.Search

/-!
Time stamps inside names: eight digits of date and six of time, as in `_20240101_120000`, and a
duplicate index in brackets behind them, as in ` (2)`. Digits of every script count.
-/

namespace CameraRoll.Naming

open CameraRoll.Text

/-- The first `count` characters, if all of them are digits, and what follows. -/
def takeDigits : Nat → List Char → Option (List Char × List Char)
  | 0, rest => some ([], rest)
  | _ + 1, [] => none
  | count + 1, c :: rest =>
    if isDigit c then (takeDigits count rest).map fun (digits, rest) => (c :: digits, rest)
    else none

/-- The longest run of digits at the front, and what follows. -/
def spanDigits (s : List Char) : List Char × List Char := (s.takeWhile isDigit, s.dropWhile isDigit)

/-- `_`, eight digits, `_` and six digits at the front: the digits, and what follows. -/
def stampDigits : List Char → Option (List Char × List Char × List Char)
  | '_' :: s => do
    let (date, rest) ← takeDigits 8 s
    match rest with
    | '_' :: rest =>
      let (time, rest) ← takeDigits 6 rest
      some (date, time, rest)
    | _ => none
  | _ => none

/-- A blank and digits in brackets at the front: the digits, and what follows. -/
def bracketedIndex : List Char → Option (List Char × List Char)
  | ' ' :: '(' :: s =>
    match spanDigits s with
    | ([], _) => none
    | (digits, ')' :: rest) => some (digits, rest)
    | _ => none
  | _ => none

/-- The digits of a time stamp, and those of the duplicate index behind it. -/
structure Stamp where
  date : List Char
  time : List Char
  index : Option (List Char)
  deriving DecidableEq, Repr

/-- A time stamp at the front of the text. -/
def stampAt (s : List Char) : Option Stamp :=
  (stampDigits s).map fun (date, time, rest) => ⟨date, time, (bracketedIndex rest).map (·.1)⟩

def findStamp (name : List Char) : Option Stamp := leftmost stampAt name

/-- The name carries a time stamp. -/
def isStamped (name : String) : Bool := (findStamp name.toList).isSome

end CameraRoll.Naming
