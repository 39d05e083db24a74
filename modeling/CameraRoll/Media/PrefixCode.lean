import CameraRoll.Media.Bits

/-!
Prefix codes in their canonical form: shorter code words come first, those of one length follow one
another in the order of their symbols, and each word continues the count of the word before it. Such
a code is determined by how many words of each length there are and by the order of the symbols.
-/

namespace CameraRoll

/-- A canonical prefix code. -/
structure PrefixCode where
  /-- How many words there are of one bit, of two bits, and so on. -/
  counts : List Nat
  /-- The symbols in the order of their words. -/
  symbols : Array Nat
  deriving Repr

namespace PrefixCode

/-- The code in which the symbol `i` has a word of the `i`th length; a symbol of length zero has no
word. -/
def ofLengths (longest : Nat) (lengths : List Nat) : PrefixCode :=
  let lengthsFrom1 := (List.range longest).map (· + 1)
  { counts := lengthsFrom1.map lengths.count
    symbols :=
      (lengthsFrom1.flatMap fun length =>
        lengths.zipIdx.filterMap fun (l, symbol) =>
          if l = length then some symbol else none).toArray }

/-- Bit sequences of the greatest length that begin with no word, as far as this can be counted;
none if there are more words than bit sequences for them. -/
def unused? (counts : List Nat) : (free : Nat) → Option Nat :=
  match counts with
  | [] => some
  | count :: rest => fun free =>
    if 2 * free < count then none else unused? rest (2 * free - count)

/-- Every bit sequence begins with a word. -/
def isComplete (code : PrefixCode) : Bool := unused? code.counts 1 == some 0

/-- Reads a word bit by bit. `word` is what was read, `first` the first word of its length, and
`before` the number of shorter words. -/
def decodeFrom? (bits : Bits) (symbols : Array Nat) :
    (counts : List Nat) → (word first before pos : Nat) → Option (Nat × Nat)
  | [], _, _, _, _ => none
  | count :: rest, word, first, before, pos => do
    let bit ← bits.at? pos
    let word := 2 * word + bit
    let first := 2 * first
    if word < first + count then
      let symbol ← symbols[before + (word - first)]?
      return (symbol, pos + 1)
    else decodeFrom? bits symbols rest word (first + count) (before + count) (pos + 1)

/-- The symbol whose word stands at a position, and the position behind it. -/
def decode? (code : PrefixCode) (bits : Bits) (pos : Nat) : Option (Nat × Nat) :=
  decodeFrom? bits code.symbols code.counts 0 0 0 pos

/-- The words from the next free one on: their lengths and numbers. -/
def wordsFrom : (counts : List Nat) → (length next : Nat) → List (Nat × Nat)
  | [], _, _ => []
  | count :: rest, length, next =>
    (List.range count).map (fun i => (length, 2 * next + i)) ++
      wordsFrom rest (length + 1) (2 * next + count)

/-- The words of the code: for each symbol in order the length of its word and the number that the
word's bits make. -/
def words (code : PrefixCode) : List (Nat × Nat × Nat) :=
  code.symbols.toList.zip (wordsFrom code.counts 1 0)

end PrefixCode

end CameraRoll
