import CameraRoll.Text.Hex

/-!
Texts in JSON: between quotes, with escapes for quotes, backslashes and control characters.
-/

namespace CameraRoll.Json

open CameraRoll.Text

/-- The character after a backslash in the short escape of `c`, if it has one. -/
def shortEscape? (c : Char) : Option Char :=
  match c with
  | '"' => some '"'
  | '\\' => some '\\'
  | '\n' => some 'n'
  | '\r' => some 'r'
  | '\t' => some 't'
  | '\x08' => some 'b'
  | '\x0c' => some 'f'
  | _ => none

/-- Hexadecimal digit below sixteen, lower case. -/
def hexDigit (n : Nat) : Char := Char.ofNat (if n < 10 then 48 + n else 87 + n)

/-- One character between quotes: escaped only if it has a short escape or is a control
character. -/
def escape (c : Char) : List Char :=
  match shortEscape? c with
  | some e => ['\\', e]
  | none =>
    if c.toNat < 0x20 then
      ['\\', 'u', '0', '0', hexDigit (c.toNat / 16), hexDigit (c.toNat % 16)]
    else [c]

def quote (s : List Char) : List Char := '"' :: s.flatMap escape ++ ['"']

/-- The value of four hexadecimal digits. -/
def hexUnit? (a b c d : Char) : Option Nat := do
  return (((← hexValue? a) * 16 + (← hexValue? b)) * 16 + (← hexValue? c)) * 16 + (← hexValue? d)

/-- The first half of a surrogate pair. -/
def isHighSurrogate (unit : Nat) : Bool := 0xD800 ≤ unit && unit < 0xDC00

/-- The second half of a surrogate pair. -/
def isLowSurrogate (unit : Nat) : Bool := 0xDC00 ≤ unit && unit < 0xE000

/-- The character that a short escape stands for. -/
def unescape? (c : Char) : Option Char :=
  match c with
  | '"' => some '"'
  | '\\' => some '\\'
  | '/' => some '/'
  | 'n' => some '\n'
  | 'r' => some '\r'
  | 't' => some '\t'
  | 'b' => some '\x08'
  | 'f' => some '\x0c'
  | _ => none

/-- The text up to the closing quote, and what follows it. Control characters must be escaped, and
surrogates must come in pairs. -/
def unquote : List Char → Option (List Char × List Char)
  | [] => none
  | '"' :: rest => some ([], rest)
  | '\\' :: 'u' :: a :: b :: c :: d :: rest =>
    match hexUnit? a b c d with
    | none => none
    | some unit =>
      if isHighSurrogate unit then
        match rest with
        | '\\' :: 'u' :: e :: f :: g :: h :: rest =>
          match hexUnit? e f g h with
          | none => none
          | some second =>
            if isLowSurrogate second then
              let code := 0x10000 + (unit - 0xD800) * 0x400 + (second - 0xDC00)
              (unquote rest).map fun (s, rest) => (Char.ofNat code :: s, rest)
            else none
        | _ => none
      else if isLowSurrogate unit then none
      else (unquote rest).map fun (s, rest) => (Char.ofNat unit :: s, rest)
  | '\\' :: e :: rest =>
    match unescape? e with
    | some c => (unquote rest).map fun (s, rest) => (c :: s, rest)
    | none => none
  | c :: rest =>
    if c.toNat < 0x20 || c == '\\' then none
    else (unquote rest).map fun (s, rest) => (c :: s, rest)

/-- What follows a text is shorter than the whole. -/
theorem length_lt_of_unquote {s t rest : List Char} (h : unquote s = some (t, rest)) :
    rest.length < s.length := by
  fun_induction unquote s generalizing t rest <;> simp_all
  all_goals
    rename_i ih
    obtain ⟨front, found, -⟩ := h
    have := ih found
    omega

end CameraRoll.Json
