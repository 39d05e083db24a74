import CameraRoll.Json.Number
import CameraRoll.Json.Quoted

/-!
The tokens of JSON texts: marks, words, numbers and quoted texts, with blanks between them.
-/

namespace CameraRoll.Json

/-- A token. -/
inductive Token where
  | openArray
  | closeArray
  | openObject
  | closeObject
  | comma
  | colon
  /-- A number, a quoted text or one of the words `null`, `true` and `false`. -/
  | scalar (value : JsonValue)

def isSpace (c : Char) : Bool := c == ' ' || c == '\n' || c == '\t' || c == '\r'

/-- The token of a mark. -/
def mark? (c : Char) : Option Token :=
  match c with
  | '[' => some .openArray
  | ']' => some .closeArray
  | '{' => some .openObject
  | '}' => some .closeObject
  | ',' => some .comma
  | ':' => some .colon
  | _ => none

/-- The token at the front, and what follows it. -/
def tokenAt (s : List Char) : Option (Token × List Char) :=
  match s with
  | 'n' :: 'u' :: 'l' :: 'l' :: rest => some (.scalar .null, rest)
  | 't' :: 'r' :: 'u' :: 'e' :: rest => some (.scalar (.bool true), rest)
  | 'f' :: 'a' :: 'l' :: 's' :: 'e' :: rest => some (.scalar (.bool false), rest)
  | '"' :: rest => (unquote rest).map fun (text, rest) => (.scalar (.text (String.ofList text)), rest)
  | c :: rest =>
    match mark? c with
    | some token => some (token, rest)
    | none => do
      let (literal, rest) ← numberAt (c :: rest)
      return (.scalar (← literal.value), rest)
  | [] => none

/-- What follows a token is shorter than the whole. -/
theorem length_lt_of_tokenAt {s rest : List Char} {token : Token}
    (h : tokenAt s = some (token, rest)) : rest.length < s.length := by
  unfold tokenAt at h
  split at h
  · simp at h; simp [← h.2]; omega
  · simp at h; simp [← h.2]; omega
  · simp at h; simp [← h.2]; omega
  · simp only [Option.map_eq_some_iff, Prod.mk.injEq, Prod.exists] at h
    obtain ⟨a, b, found, -, rfl⟩ := h
    have := length_lt_of_unquote found
    simp; omega
  · split at h
    · simp at h; simp [← h.2]
    · simp only [Option.pure_def, Option.bind_eq_bind, Option.bind_eq_some_iff, Option.some.injEq,
        Prod.mk.injEq, Prod.exists] at h
      obtain ⟨a, b, found, value, -, -, rfl⟩ := h
      exact length_lt_of_numberAt found
  · simp at h

/-- The tokens of a text, if it consists of tokens and blanks. -/
def tokens (s : List Char) : Option (List Token) :=
  match s with
  | [] => some []
  | c :: rest =>
    if isSpace c then tokens rest
    else
      match _taken : tokenAt (c :: rest) with
      | none => none
      | some (token, rest) => (tokens rest).map (token :: ·)
termination_by s.length
decreasing_by
  · simp
  · exact length_lt_of_tokenAt (by assumption)

end CameraRoll.Json
