import CameraRoll.Naming.Collision
import CameraRoll.Proofs.Store.Files
import CameraRoll.Resolver.Basic
import Mathlib.Logic.Function.Iterate

/-!
The names that follow a taken name. Main statements: `kindOf_nextName`, that they are of the same
kind, `isValidName_nextName`, that they are valid, and `taken_forever`, that no new name follows
those that a search tries.
-/

namespace CameraRoll.Naming

open CameraRoll.Text

/-! ### The parts of a name -/

theorem splitExtension_append (name : List Char) :
    (splitExtension name).1 ++ (splitExtension name).2 = name := by
  unfold splitExtension
  dsimp only
  split
  · exact List.takeWhile_append_dropWhile
  · exact List.append_nil name

/-- An extension is empty or starts with a dot. -/
theorem head_splitExtension (name : List Char) :
    ∀ c ∈ (splitExtension name).2.head?, c = '.' := by
  unfold splitExtension
  dsimp only
  split
  · intro c first
    have stops := List.head?_dropWhile_not (· != '.') name
    simp only [Option.mem_def] at first
    simpa [first] using stops
  · simp

/-- A run of digits ends where something else follows. -/
theorem spanDigits_append {digits rest : List Char} (number : ∀ c ∈ digits, isDigit c = true)
    (stops : ∀ c ∈ rest.head?, isDigit c = false) : spanDigits (digits ++ rest) = (digits, rest) := by
  rw [spanDigits, List.takeWhile_append_of_pos number, List.dropWhile_append_of_pos number]
  cases rest with
  | nil => simp
  | cons c rest => simp [stops c rfl]

/-- A text with a duplicate index is the text, the index in brackets, and nothing else. -/
theorem eq_of_splitIndex {base front digits : List Char}
    (split : splitIndex base = some (front, digits)) :
    base = front ++ ' ' :: '(' :: digits ++ [')'] ∧ ∀ c ∈ digits, isDigit c = true := by
  unfold splitIndex at split
  split at split
  -- read backwards: the closing bracket, the digits, the opening bracket and a blank
  next back backwards =>
    have pieces : (spanDigits back).1 ++ (spanDigits back).2 = back :=
      List.takeWhile_append_dropWhile
    have number : ∀ c ∈ (spanDigits back).1, isDigit c = true :=
      fun c member => List.all_eq_true.mp (List.all_takeWhile ..) c member
    split at split
    · cases split
    next found before spanned =>
      simp only [spanned] at pieces number
      simp only [Option.some.injEq, Prod.mk.injEq] at split
      obtain ⟨rfl, rfl⟩ := split
      refine ⟨?_, fun c member => number c (List.mem_reverse.mp member)⟩
      rw [← List.reverse_reverse base, backwards, ← pieces]
      simp
    · cases split
  · cases split

/-- The digits in brackets at the end of a text are its index. -/
theorem splitIndex_append (front : List Char) {digits : List Char} (some_digit : digits ≠ [])
    (number : ∀ c ∈ digits, isDigit c = true) :
    splitIndex (front ++ ' ' :: '(' :: digits ++ [')']) = some (front, digits) := by
  have backwards : (front ++ ' ' :: '(' :: digits ++ [')']).reverse =
      ')' :: (digits.reverse ++ '(' :: ' ' :: front.reverse) := by simp
  have bracket : isDigit '(' = false := by decide
  have spanned : spanDigits (digits.reverse ++ '(' :: ' ' :: front.reverse) =
      (digits.reverse, '(' :: ' ' :: front.reverse) :=
    spanDigits_append (fun c member => number c (List.mem_reverse.mp member)) (by simp [bracket])
  unfold splitIndex
  simp only [backwards, spanned]
  split
  next nothing => simp [some_digit] at nothing
  next same =>
    simp only [Prod.mk.injEq, List.cons.injEq, true_and] at same
    simp [← same.1, ← same.2]
  next other =>
    exact absurd rfl (other _ _)

/-- The text to which an index is attached is at the front, and only an index in brackets is left
out of it. -/
theorem indexedBase_append (base : List Char) :
    ∃ index, base = (indexedBase base).1 ++ index ∧ (∀ c ∈ index.head?, c = ' ') ∧
      ∀ c ∈ index, c = ' ' ∨ c = '(' ∨ isDigit c = true ∨ c = ')' := by
  unfold indexedBase
  split
  next front digits split =>
    obtain ⟨whole, number⟩ := eq_of_splitIndex split
    split
    · refine ⟨' ' :: '(' :: digits ++ [')'], by simpa using whole, by simp, fun c member => ?_⟩
      simp only [List.cons_append, List.mem_cons, List.mem_append, List.not_mem_nil, or_false]
        at member
      rcases member with blank | opened | digit | closed
      · exact Or.inl blank
      · exact Or.inr (Or.inl opened)
      · exact Or.inr (Or.inr (Or.inl (number c digit)))
      · exact Or.inr (Or.inr (Or.inr closed))
    · exact ⟨[], by simp, by simp, by simp⟩
  · exact ⟨[], by simp, by simp, by simp⟩

/-! ### Names with an index -/

/-- A text with a duplicate index and an extension. -/
def indexed (front : List Char) (index : Nat) (extension : List Char) : List Char :=
  front ++ ' ' :: '(' :: numeral index ++ ')' :: extension

theorem indexed_eq_append (front : List Char) (index : Nat) (extension : List Char) :
    indexed front index extension =
      front ++ (' ' :: '(' :: numeral index ++ ')' :: extension) := by
  simp [indexed]

/-- Texts with different indices are different. -/
theorem indexed_inj {front extension : List Char} {i j : Nat}
    (same : indexed front i extension = indexed front j extension) : i = j := by
  rw [indexed_eq_append, indexed_eq_append] at same
  have bracketed := List.append_cancel_left same
  simp only [List.cons_append, List.cons.injEq, true_and] at bracketed
  have read := readNumeral_numeral i
  rw [List.append_cancel_right bracketed, readNumeral_numeral] at read
  exact (Option.some.inj read).symm

/-- The index of the name after a name. -/
def indexAfter (name : List Char) : Nat :=
  min ((indexedBase (splitExtension name).1).2 + 1) maxWord64

theorem nextChars_eq (name : List Char) :
    nextChars name =
      indexed (indexedBase (splitExtension name).1).1 (indexAfter name) (splitExtension name).2 :=
  rfl

theorem isDigit_of_mem_numeral {n : Nat} {c : Char} (member : c ∈ numeral n) :
    isDigit c = true :=
  isDigit_of_isAsciiDigit (isAsciiDigit_of_mem_numeral n c member)

private theorem ne_of_isDigit {c d : Char} (digit : isDigit c = true) (other : isDigit d = false) :
    c ≠ d := by
  rintro rfl
  simp [digit] at other

private theorem isDigit_dot : isDigit '.' = false := by decide

private theorem isDigit_newline : isDigit '\n' = false := by decide

/-- An index in brackets holds digits, brackets and a blank, and nothing else. -/
theorem not_mem_bracketed {n : Nat} {d : Char} (other : isDigit d = false)
    (blank : d ≠ ' ') (opened : d ≠ '(') (closed : d ≠ ')') :
    d ∉ ' ' :: '(' :: numeral n ++ [')'] := by
  simp only [List.cons_append, List.mem_cons, List.mem_append, List.not_mem_nil, or_false, not_or]
  exact ⟨blank, opened, fun member => ne_of_isDigit (isDigit_of_mem_numeral member) other rfl,
    closed⟩

/-- Behind this front and before this extension, the next name is the one with the next index. -/
def Counts (front extension : List Char) : Prop :=
  ∀ i ≤ maxWord64, nextChars (indexed front i extension) =
    indexed front (min (i + 1) maxWord64) extension

private theorem indexedBase_bracketed (front : List Char) {i : Nat} (small : i ≤ maxWord64) :
    indexedBase (front ++ ' ' :: '(' :: numeral i ++ [')']) = (front, i) := by
  have read : readNumeralUpTo maxWord64 (numeral i) = some i := by
    rw [readNumeralUpTo, readNumeral_numeral]
    simp [small]
  rw [indexedBase, splitIndex_append front (numeral_ne_nil i)
    fun c member => isDigit_of_mem_numeral member]
  simp [read]

/-- A front and an extension count once the extension is told apart from every index. -/
private theorem counts_of_split {front extension : List Char}
    (told : ∀ i, splitExtension (indexed front i extension) =
      (front ++ ' ' :: '(' :: numeral i ++ [')'], extension)) : Counts front extension := by
  intro i small
  rw [nextChars_eq, indexAfter, told, indexedBase_bracketed front small]

/-- The extension is told by the first dot. -/
theorem splitExtension_of_plain {base extension : List Char} (some_char : base ≠ [])
    (plain : '.' ∉ base) (accepted : isExtension extension = true) :
    splitExtension (base ++ extension) = (base, extension) := by
  have passed : ∀ c ∈ base, (c != '.') = true := by
    intro c member
    rw [bne_iff_ne]
    rintro rfl
    exact plain member
  have stops : extension.takeWhile (· != '.') = [] ∧
      extension.dropWhile (· != '.') = extension := by
    cases extension with
    | nil => simp
    | cons c rest =>
      have dot : c = '.' := by
        unfold isExtension at accepted
        split at accepted <;> simp_all
      simp [dot]
  unfold splitExtension
  rw [List.takeWhile_append_of_pos passed, List.dropWhile_append_of_pos passed, stops.1, stops.2]
  simp [accepted, some_char]

/-- A front without a dot counts before every extension. -/
theorem counts_of_extension {front extension : List Char} (plain : '.' ∉ front)
    (accepted : isExtension extension = true) : Counts front extension := by
  refine counts_of_split fun i => ?_
  have whole : indexed front i extension =
      (front ++ ' ' :: '(' :: numeral i ++ [')']) ++ extension := by simp [indexed]
  -- the first dot is that of the extension
  have base : '.' ∉ front ++ ' ' :: '(' :: numeral i ++ [')'] := by
    rw [List.append_assoc, List.mem_append, not_or]
    exact ⟨plain, not_mem_bracketed isDigit_dot (by decide) (by decide) (by decide)⟩
  rw [whole, splitExtension_of_plain (by simp) base accepted]

/-- A front that has no extension of its own, and never gets one, counts as a whole. -/
theorem counts_of_whole {front : List Char}
    (none : ∀ i, splitExtension (indexed front i []) = (indexed front i [], [])) :
    Counts front [] :=
  counts_of_split fun i => by rw [none i]; simp [indexed]

theorem indexAfter_le (name : List Char) : indexAfter name ≤ maxWord64 := Nat.min_le_right _ _

/-- The name is one of a front and an extension that count. -/
def IsCounted (name : List Char) : Prop :=
  ∃ front extension i, i ≤ maxWord64 ∧ name = indexed front i extension ∧ Counts front extension

theorem IsCounted.next {name : List Char} (counted : IsCounted name) :
    IsCounted (nextChars name) := by
  obtain ⟨front, extension, i, small, rfl, counts⟩ := counted
  exact ⟨front, extension, _, Nat.min_le_right _ _, counts i small, counts⟩

private theorem isCounted_of_split {name base extension : List Char}
    (split : splitExtension name = (base, extension)) (plain : '.' ∉ base)
    (accepted : isExtension extension = true) : IsCounted (nextChars name) := by
  obtain ⟨index, whole, -, -⟩ := indexedBase_append base
  refine ⟨(indexedBase base).1, extension, indexAfter name, indexAfter_le name, ?_, ?_⟩
  · rw [nextChars_eq, split]
  · refine counts_of_extension (fun dot => plain ?_) accepted
    rw [whole]
    exact List.mem_append_left _ dot

theorem splitExtension_of_dot {before : List Char} (plain : '.' ∉ before)
    (after : List Char) :
    splitExtension (before ++ '.' :: after) =
      if !before.isEmpty && isExtension ('.' :: after) then (before, '.' :: after)
      else (before ++ '.' :: after, []) := by
  have passed : ∀ c ∈ before, (c != '.') = true := by
    intro c member
    rw [bne_iff_ne]
    rintro rfl
    exact plain member
  unfold splitExtension
  rw [List.takeWhile_append_of_pos passed, List.dropWhile_append_of_pos passed]
  simp

private theorem isExtension_dot (after : List Char) :
    isExtension ('.' :: after) = true ↔ after ≠ [] ∧ '\n' ∉ after := by
  cases after with
  | nil => simp [isExtension]
  | cons c rest =>
    simp only [isExtension, List.all_eq_true, bne_iff_ne]
    constructor
    · exact fun h => ⟨by simp, fun member => h _ member rfl⟩
    · rintro ⟨-, h⟩ d member rfl
      exact h member

private theorem splitExtension_indexed {before : List Char} (plain : '.' ∉ before)
    (after : List Char) (i : Nat) :
    splitExtension (indexed (before ++ '.' :: after) i []) =
      if before ≠ [] ∧ '\n' ∉ after then
        (before, '.' :: (after ++ ' ' :: '(' :: numeral i ++ [')']))
      else (indexed (before ++ '.' :: after) i [], []) := by
  have whole : indexed (before ++ '.' :: after) i [] =
      before ++ '.' :: (after ++ ' ' :: '(' :: numeral i ++ [')']) := by simp [indexed]
  have newline : '\n' ∈ after ++ ' ' :: '(' :: numeral i ++ [')'] ↔ '\n' ∈ after := by
    rw [List.append_assoc, List.mem_append, or_iff_left]
    exact not_mem_bracketed isDigit_newline (by decide) (by decide) (by decide)
  rw [whole, splitExtension_of_dot plain]
  refine if_congr ?_ rfl rfl
  rw [Bool.and_eq_true, isExtension_dot, newline]
  simp

/-- The second name after any name counts. The first one may not: after `x.` comes `x. (1)`, whose
extension is `. (1)`. -/
theorem isCounted_next_next (name : List Char) : IsCounted (nextChars (nextChars name)) := by
  by_cases dot : '.' ∈ name
  -- the first dot of the name stands before its index, and so it is the first dot of the next name
  · obtain ⟨index, whole, -, bracketed⟩ := indexedBase_append name
    have inFront : '.' ∈ (indexedBase name).1 := by
      rw [whole] at dot
      rcases List.mem_append.mp dot with front | back
      · exact front
      · have := bracketed '.' back
        simp [isDigit_dot] at this
    obtain ⟨before, after, front, plain⟩ := List.eq_append_cons_of_mem inFront
    have split := splitExtension_of_dot plain (after ++ index)
    rw [← List.cons_append, ← List.append_assoc, ← front, ← whole] at split
    by_cases accepted : (!before.isEmpty && isExtension ('.' :: (after ++ index))) = true
    · rw [← List.cons_append] at accepted
      rw [if_pos accepted] at split
      rw [Bool.and_eq_true] at accepted
      exact (isCounted_of_split split plain accepted.2).next
    · rw [← List.cons_append] at accepted
      rw [if_neg accepted] at split
      have next : nextChars name = indexed (before ++ '.' :: after) (indexAfter name) [] := by
        rw [nextChars_eq, split, front]
      -- the index behind it can turn what follows the dot into an extension
      by_cases gains : before ≠ [] ∧ '\n' ∉ after
      · have later := splitExtension_indexed plain after (indexAfter name)
        rw [if_pos gains, ← next] at later
        refine isCounted_of_split later plain ((isExtension_dot _).mpr ⟨by simp, ?_⟩)
        rw [List.append_assoc, List.mem_append, not_or]
        exact ⟨gains.2,
          not_mem_bracketed isDigit_newline (by decide) (by decide) (by decide)⟩
      · refine IsCounted.next ⟨_, _, _, indexAfter_le name, next, counts_of_whole fun i => ?_⟩
        rw [splitExtension_indexed plain, if_neg gains]
  · have split : splitExtension name = (name, []) := by
      have passed : ∀ c ∈ name, (c != '.') = true := fun c member => by
        rw [bne_iff_ne]
        rintro rfl
        exact dot member
      have kept : (name ++ []).takeWhile (· != '.') = name ++ [] :=
        List.takeWhile_append_of_pos passed
      have gone : (name ++ []).dropWhile (· != '.') = [] := List.dropWhile_append_of_pos passed
      rw [List.append_nil] at kept gone
      unfold splitExtension
      rw [kept, gone]
      simp
    exact (isCounted_of_split split dot rfl).next

/-! ### Names after names -/

theorem iterate_indexed {front extension : List Char} (counts : Counts front extension)
    {i : Nat} (small : i ≤ maxWord64) (n : Nat) :
    nextChars^[n] (indexed front i extension) =
      indexed front (min (i + n) maxWord64) extension := by
  induction n with
  | zero => simp [Nat.min_eq_left small]
  | succ n ih =>
    rw [Function.iterate_succ_apply', ih, counts _ (Nat.min_le_right _ _)]
    congr 1
    omega

/-- The names after one whose front holds neither a dot nor a blank are told apart by their index
alone. -/
theorem iterate_nextChars_of_plain {front extension : List Char} (some_char : front ≠ [])
    (dot : '.' ∉ front) (blank : ' ' ∉ front) (accepted : isExtension extension = true) (n : Nat) :
    nextChars^[n + 1] (front ++ extension) = indexed front (min (n + 1) maxWord64) extension := by
  have unindexed : splitIndex front = none := by
    cases split : splitIndex front with
    | none => rfl
    | some pair =>
      obtain ⟨whole, -⟩ := eq_of_splitIndex split
      exact absurd (by rw [whole]; simp) blank
  have next : nextChars (front ++ extension) = indexed front 1 extension := by
    rw [nextChars_eq, indexAfter, splitExtension_of_plain some_char dot accepted]
    simp [indexedBase, unindexed, maxWord64]
  rw [Function.iterate_succ_apply, next, iterate_indexed (counts_of_extension dot accepted) (by decide),
    Nat.add_comm]

/-- From the second name after a name on, the names are told apart by their index alone, which grows
by one with each of them and stops at the largest one. -/
theorem exists_iterate_indexed (name : List Char) :
    ∃ front extension i, i ≤ maxWord64 ∧
      ∀ k, nextChars^[k + 2] name = indexed front (min (i + k) maxWord64) extension := by
  obtain ⟨front, extension, i, small, reached, counts⟩ := isCounted_next_next name
  refine ⟨front, extension, i, small, fun k => ?_⟩
  rw [Function.iterate_add_apply, ← iterate_indexed counts small k, ← reached]
  rfl

/-- From some name on, all names are the same. -/
theorem iterate_nextChars_of_le (name : List Char) {n : Nat} (many : maxWord64 + 2 ≤ n) :
    nextChars^[n] name = nextChars^[maxWord64 + 2] name := by
  obtain ⟨front, extension, i, -, after⟩ := exists_iterate_indexed name
  obtain ⟨k, rfl⟩ := Nat.exists_eq_add_of_le' many
  rw [show k + (maxWord64 + 2) = (k + maxWord64) + 2 by omega, after, after,
    Nat.min_eq_right (by omega), Nat.min_eq_right (by omega)]

theorem toList_nextName (name : String) : (nextName name).toList = nextChars name.toList :=
  String.toList_ofList

theorem toList_iterate_nextName (name : String) (n : Nat) :
    (nextName^[n] name).toList = nextChars^[n] name.toList := by
  induction n with
  | zero => rfl
  | succ n ih =>
    rw [Function.iterate_succ_apply', Function.iterate_succ_apply', toList_nextName, ih]

/-- A search for a free name that has tried as many names as it tries finds no other name later. -/
theorem taken_forever (taken : String → Prop) {name : String}
    (tried : ∀ n < Resolver.nameCount, taken (nextName^[n] name)) (n : Nat) :
    taken (nextName^[n] name) := by
  by_cases few : n < Resolver.nameCount
  · exact tried n few
  · have many : maxWord64 + 2 ≤ n := by simp only [Resolver.nameCount] at few; omega
    have same : nextName^[n] name = nextName^[maxWord64 + 2] name := by
      rw [← String.toList_inj, toList_iterate_nextName, toList_iterate_nextName,
        iterate_nextChars_of_le _ many]
    rw [same]
    exact tried _ (by simp [Resolver.nameCount])

/-! ### Kind -/

/-- What follows a text does not matter to its start if it begins with a character that the start
does not hold. -/
theorem isPrefixOf_append_of_head {start front rest : List Char}
    (foreign : ∀ c ∈ rest.head?, c ∉ start) :
    start.isPrefixOf (front ++ rest) = start.isPrefixOf front := by
  induction start generalizing front with
  | nil => simp
  | cons c start ih =>
    cases front with
    | nil =>
      cases rest with
      | nil => rfl
      | cons d rest =>
        have other : c ≠ d := fun same => foreign d rfl (same ▸ List.mem_cons_self)
        simp [List.isPrefixOf, other]
    | cons d front =>
      have later : start.isPrefixOf (front ++ rest) = start.isPrefixOf front :=
        ih fun e first member => foreign e first (List.mem_cons_of_mem _ member)
      simp [List.isPrefixOf, later]

/-- What the name after a name has in common with it: all up to the index or the extension. -/
theorem nextChars_shares (name : List Char) :
    ∃ front rest next, name = front ++ rest ∧ nextChars name = front ++ ' ' :: next ∧
      ∀ c ∈ rest.head?, c = ' ' ∨ c = '.' := by
  obtain ⟨index, whole, blank, -⟩ := indexedBase_append (splitExtension name).1
  refine ⟨(indexedBase (splitExtension name).1).1, index ++ (splitExtension name).2,
    '(' :: numeral (indexAfter name) ++ ')' :: (splitExtension name).2, ?_, ?_, ?_⟩
  · rw [← List.append_assoc, ← whole, splitExtension_append]
  · rw [nextChars_eq]
    simp [indexed]
  · intro c first
    cases index with
    | nil => exact Or.inr (head_splitExtension name c first)
    | cons d index => exact Or.inl (blank c first)

private theorem isPrefixOf_nextChars {start : List Char} (blank : ' ' ∉ start) (dot : '.' ∉ start)
    (name : List Char) : start.isPrefixOf (nextChars name) = start.isPrefixOf name := by
  obtain ⟨front, rest, next, whole, after, first⟩ := nextChars_shares name
  rw [after, isPrefixOf_append_of_head (by simpa using blank), whole,
    isPrefixOf_append_of_head fun c member => ?_]
  rcases first c member with rfl | rfl
  · exact blank
  · exact dot

/-- The name after a name is of the same kind. -/
theorem kindOf_nextName (name : String) : kindOf (nextName name) = kindOf name := by
  simp only [kindOf, kindOfChars, toList_nextName]
  rw [isPrefixOf_nextChars (by decide) (by decide), isPrefixOf_nextChars (by decide) (by decide),
    isPrefixOf_nextChars (by decide) (by decide)]

theorem kindOf_iterate_nextName (name : String) (n : Nat) :
    kindOf (nextName^[n] name) = kindOf name := by
  induction n with
  | zero => rfl
  | succ n ih => rw [Function.iterate_succ_apply', kindOf_nextName, ih]

/-! ### Validity -/

theorem isValidName_of_chars {name : String} (long : 3 ≤ name.toList.length)
    (plain : ∀ c ∈ name.toList, isSeparator c = false) : isValidName name = true := by
  have ne {short : String} (few : short.toList.length < 3) : name ≠ short := by
    rintro rfl
    omega
  simp only [isValidName, Bool.and_eq_true, bne_iff_ne, Bool.not_eq_true', List.any_eq_false]
  exact ⟨⟨⟨ne (by decide), ne (by decide)⟩, ne (by decide)⟩, fun c member => by
    simp [plain c member]⟩

theorem isSeparator_of_mem {name : String} (valid : isValidName name = true) {c : Char}
    (member : c ∈ name.toList) : isSeparator c = false := by
  simp only [isValidName, Bool.and_eq_true, Bool.not_eq_true', List.any_eq_false] at valid
  simpa using valid.2 c member

theorem isSeparator_of_isDigit {c : Char} (digit : isDigit c = true) : isSeparator c = false := by
  have slash : c ≠ '/' := ne_of_isDigit digit (by decide)
  have backslash : c ≠ '\\' := ne_of_isDigit digit (by decide)
  have zero : c ≠ '\x00' := ne_of_isDigit digit (by decide)
  simp [isSeparator, slash, backslash, zero]

/-- The name after a valid name is valid. -/
theorem isValidName_nextName {name : String} (valid : isValidName name = true) :
    isValidName (nextName name) = true := by
  have inName : ∀ c ∈ name.toList, isSeparator c = false := fun c => isSeparator_of_mem valid
  -- the next name consists of parts of the name, digits, brackets and a blank
  obtain ⟨index, base, -, -⟩ := indexedBase_append (splitExtension name.toList).1
  have whole := splitExtension_append name.toList
  apply isValidName_of_chars
  · rw [toList_nextName, nextChars_eq]
    have some_digit := List.length_pos_of_ne_nil (numeral_ne_nil (indexAfter name.toList))
    simp only [indexed, List.length_append, List.length_cons]
    omega
  · intro c member
    rw [toList_nextName, nextChars_eq] at member
    simp only [indexed, List.mem_append, List.mem_cons] at member
    rcases member with (front | rfl | rfl | digit) | rfl | extension
    · refine inName c (whole ▸ List.mem_append_left _ ?_)
      rw [base]
      exact List.mem_append_left _ front
    · decide
    · decide
    · exact isSeparator_of_isDigit (isDigit_of_mem_numeral digit)
    · decide
    · exact inName c (whole ▸ List.mem_append_right _ extension)

theorem isValidName_iterate_nextName {name : String} (valid : isValidName name = true) (n : Nat) :
    isValidName (nextName^[n] name) = true := by
  induction n with
  | zero => exact valid
  | succ n ih =>
    rw [Function.iterate_succ_apply']
    exact isValidName_nextName ih

end CameraRoll.Naming
