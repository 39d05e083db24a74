import CameraRoll.Naming.CaptureTime
import CameraRoll.Proofs.Calendar.Fields
import CameraRoll.Proofs.Naming.Stamped

/-!
Names of pictures whose stamp has any digits, in range or not, and whose duplicate index is spelled
in any way. Main statements: `regulateChars_dated` and `regulateChars_olderIndex`, what becomes of
such a name when it is regulated, and `captureTimeOfChars_indexText`, that its time is that of its
stamp and as many milliseconds as its index says.
-/

namespace CameraRoll.Naming

open CameraRoll.Calendar CameraRoll.Text

/-- ASCII digits of a date and of a time of day, as many as a stamp has. -/
structure StampDigits (date time : List Char) : Prop where
  eight : date.length = 8
  six : time.length = 6
  number : ∀ c ∈ date ++ time, isAsciiDigit c = true

/-- The start of the names of a kind, and a stamp. -/
def datedBase (kind : MediaKind) (date time : List Char) : List Char :=
  (startOf kind).toList ++ (date ++ '_' :: time)

/-! ### Names with a stamp -/

/-- Three characters of a word, none of them a `_`, stand before the first stamp. -/
private theorem startOf_eq (kind : MediaKind) :
    ∃ a b c, (startOf kind).toList = [a, b, c, '_'] ∧
      (isWord a = true ∧ isWord b = true ∧ isWord c = true) ∧ '_' ∉ [a, b, c] := by
  cases kind
  · exact ⟨'I', 'M', 'G', rfl, by decide, by decide⟩
  · exact ⟨'V', 'I', 'D', rfl, by decide, by decide⟩

theorem isPrimary_startOf_append (kind : MediaKind) (rest : List Char) :
    (kindOfChars ((startOf kind).toList ++ rest)).isPrimary = true := by
  cases kind <;> rfl

/-- The text before the first `_` is told by the whole. -/
private theorem eq_of_before_underscore {front front' back back' : List Char}
    (plain : '_' ∉ front) (plain' : '_' ∉ front')
    (same : front ++ '_' :: back = front' ++ '_' :: back') : front = front' := by
  have before {text : List Char} (plain : '_' ∉ text) (back : List Char) :
      (text ++ '_' :: back).takeWhile (· != '_') = text := by
    have passed : ∀ c ∈ text, (c != '_') = true := by
      rintro c member
      rw [bne_iff_ne]
      rintro rfl
      exact plain member
    rw [List.takeWhile_append_of_pos passed]
    simp
  rw [← before plain back, same, before plain' back']

section Dated

variable {date time : List Char} (digits : StampDigits date time)
include digits

theorem stampDigits_dated (rest : List Char) :
    stampDigits ('_' :: (date ++ '_' :: time) ++ rest) = some (date, time, rest) :=
  stampDigits_eq_some_iff.mpr ⟨rfl, digits.eight, digits.six,
    fun c member => isDigit_of_isAsciiDigit (digits.number c member)⟩

theorem baseAt_datedBase (kind : MediaKind) (rest : List Char) :
    baseAt (datedBase kind date time ++ rest) = some (datedBase kind date time, rest) := by
  obtain ⟨a, b, c, start, words, -⟩ := startOf_eq kind
  have stamp := stampDigits_dated digits rest
  rw [List.cons_append] at stamp
  rw [datedBase, start]
  simp only [List.cons_append, List.nil_append, baseAt, words, Bool.and_self, if_true, stamp,
    Option.map_some]

/-- A base holds its start, digits and a `_`, and nothing else. -/
theorem not_mem_datedBase {kind : MediaKind} {c : Char} (other : isAsciiDigit c = false)
    (noUnderscore : c ≠ '_') (noStart : c ∉ (startOf kind).toList) :
    c ∉ datedBase kind date time := by
  intro member
  rw [datedBase] at member
  simp only [List.mem_append, List.mem_cons, noStart, noUnderscore, false_or] at member
  have digit := digits.number c (List.mem_append.mpr member)
  simp [other] at digit

private theorem not_mem_digits : '_' ∉ date ∧ '_' ∉ time := by
  have plain : ∀ c ∈ date ++ time, c ≠ '_' := by
    rintro c member rfl
    exact absurd (digits.number _ member) (by decide)
  exact ⟨fun member => plain _ (List.mem_append_left _ member) rfl,
    fun member => plain _ (List.mem_append_right _ member) rfl⟩

/-- There is no other stamp in a name whose rest holds no `_`. -/
private theorem partsAt_later (kind : MediaKind) {rest : List Char} (plain : '_' ∉ rest)
    {c : Char} {front back : List Char}
    (split : datedBase kind date time ++ rest = c :: front ++ back) : partsAt back = none := by
  obtain ⟨x, y, z, start, -, foreign⟩ := startOf_eq kind
  obtain ⟨inDate, inTime⟩ := not_mem_digits digits
  cases found : baseAt back with
  | none => simp [partsAt, found]
  | some pair =>
    exfalso
    obtain ⟨base, left⟩ := pair
    obtain ⟨a, b, d, behind, date', time', rfl, -, stamp, -⟩ := exists_of_baseAt found
    obtain ⟨rfl, -⟩ := stampDigits_eq_some_iff.mp stamp
    have whole : [x, y, z] ++ '_' :: (date ++ '_' :: (time ++ rest)) =
        (c :: front ++ [a, b, d]) ++ '_' :: (date' ++ '_' :: (time' ++ left)) := by
      simpa [datedBase, start] using split
    -- both stamps take up two `_`, and there are no more than two
    have count := congrArg (List.count '_') whole
    simp only [List.count_append, List.count_cons_self, List.count_eq_zero_of_not_mem foreign,
      List.count_eq_zero_of_not_mem inDate, List.count_eq_zero_of_not_mem inTime,
      List.count_eq_zero_of_not_mem plain] at count
    have earlier : '_' ∉ c :: front ++ [a, b, d] := by
      rw [← List.count_eq_zero, List.count_append]
      omega
    -- so that both begin with the first one
    have same := congrArg List.length (eq_of_before_underscore foreign earlier whole)
    simp at same

end Dated

/-! ### Regulated names -/

/-- The extension that takes the place of an extension. -/
def currentExtension (extension : List Char) : List Char :=
  if extension = legacyVideoExtension.toList then videoExtension.toList else extension

namespace NameParts

variable {parts : NameParts}

theorem chars_of_none (unindexed : parts.index = none) :
    parts.chars = parts.base ++ currentExtension parts.extension := by
  rw [chars, unindexed]
  rfl

theorem chars_of_some {digits : List Char} (indexed : parts.index = some digits) :
    parts.chars =
      parts.base ++ ' ' :: '(' :: digits ++ ')' :: currentExtension parts.extension := by
  rw [chars, indexed]
  rfl

end NameParts

section Dated

variable {date time : List Char} (digits : StampDigits date time)
include digits

/-- Of a name without another `_`, nothing changes but the older extension of videos. -/
theorem regulateChars_dated (kind : MediaKind) {rest : List Char} (plain : '_' ∉ rest)
    (zone : Zone) :
    regulateChars (datedBase kind date time ++ rest) zone =
      datedBase kind date time ++ currentExtension rest := by
  have primary : (kindOfChars (datedBase kind date time ++ rest)).isPrimary = true := by
    rw [datedBase, List.append_assoc, isPrimary_startOf_append]
  have base := baseAt_datedBase digits kind rest
  rw [regulateChars, if_pos primary]
  by_cases extension : isExtension rest = true
  · have parts : partsAt (datedBase kind date time ++ rest) =
        some ⟨datedBase kind date time, none, rest⟩ := by simp [partsAt, base, extension]
    rw [leftmost_of_some parts]
    exact NameParts.chars_of_none rfl
  · have none : leftmost partsAt (datedBase kind date time ++ rest) = none := by
      refine (leftmost_eq_none_iff _ _).mpr fun front back split => ?_
      cases front with
      | nil =>
        obtain rfl : _ = back := split
        -- what follows the stamp is no extension, and no older duplicate index either
        cases rest with
        | nil => exact absurd rfl extension
        | cons c rest =>
          have other : c ≠ '_' := fun same => plain (same ▸ List.mem_cons_self)
          simp [partsAt, base, extension, other]
      | cons c front => exact partsAt_later digits kind plain split
    have current : rest ≠ legacyVideoExtension.toList := by
      rintro rfl
      exact extension (by decide)
    rw [none, currentExtension, if_neg current]

/-- An index of the older scheme is put in brackets. -/
theorem regulateChars_olderIndex (kind : MediaKind) {index extension : List Char}
    (some_digit : index ≠ []) (number : ∀ c ∈ index, isDigit c = true)
    (accepted : isExtension extension = true) (zone : Zone) :
    regulateChars (datedBase kind date time ++ ('_' :: index ++ extension)) zone =
      datedBase kind date time ++
        (' ' :: '(' :: index ++ ')' :: currentExtension extension) := by
  have primary :
      (kindOfChars (datedBase kind date time ++ ('_' :: index ++ extension))).isPrimary = true := by
    rw [datedBase, List.append_assoc, isPrimary_startOf_append]
  have stops : ∀ c ∈ extension.head?, isDigit c = false := by
    intro c first
    unfold isExtension at accepted
    split at accepted
    · cases first
    · cases first
      decide
    · cases accepted
  have parts : partsAt (datedBase kind date time ++ ('_' :: index ++ extension)) =
      some ⟨datedBase kind date time, some index, extension⟩ := by
    have noExtension : isExtension ('_' :: (index ++ extension)) = false := rfl
    simp [partsAt, baseAt_datedBase digits, noExtension, spanDigits_append number stops, some_digit,
      accepted]
  rw [regulateChars, if_pos primary, leftmost_of_some parts]
  exact (NameParts.chars_of_some rfl).trans (List.append_assoc _ _ _)

/-- The stamp found in a name is the one behind its start. -/
theorem findStamp_dated (kind : MediaKind) (rest : List Char) :
    findStamp (datedBase kind date time ++ rest) =
      some ⟨date, time, (bracketedIndex rest).map (·.1)⟩ := by
  have stamp : stampAt ('_' :: (date ++ '_' :: time) ++ rest) =
      some ⟨date, time, (bracketedIndex rest).map (·.1)⟩ := by
    rw [stampAt, stampDigits_dated digits]
    rfl
  -- none of the characters in front is a `_`
  have skip {c : Char} (foreign : c ≠ '_') (s : List Char) :
      leftmost stampAt (c :: s) = leftmost stampAt s :=
    leftmost_cons_of_none (by simp [stampAt, stampDigits, foreign])
  obtain ⟨a, b, c, start, -, foreign⟩ := startOf_eq kind
  simp only [List.mem_cons, List.not_mem_nil, or_false, not_or] at foreign
  rw [datedBase, start, findStamp]
  simp only [List.cons_append, List.nil_append]
  rw [skip (Ne.symm foreign.1), skip (Ne.symm foreign.2.1), skip (Ne.symm foreign.2.2)]
  exact leftmost_of_some stamp

end Dated

/-! ### Duplicate indices -/

/-- Digits in brackets are the index, whatever follows. -/
theorem bracketedIndex_append {digits : List Char} (some_digit : digits ≠ [])
    (number : ∀ c ∈ digits, isDigit c = true) (rest : List Char) :
    bracketedIndex (' ' :: '(' :: digits ++ ')' :: rest) = some (digits, rest) := by
  have closed : isDigit ')' = false := by decide
  have spanned : spanDigits (digits ++ ')' :: rest) = (digits, ')' :: rest) :=
    spanDigits_append number (by simp [closed])
  simp only [List.cons_append, bracketedIndex, spanned]

/-- A duplicate index in one of its spellings, together with its value. No index counts as 0. -/
inductive IsIndexText : List Char → Nat → Prop where
  | none : IsIndexText [] 0
  | bracketed {digits : List Char} (numeral : IsNumeral digits) :
    IsIndexText (' ' :: '(' :: digits ++ [')']) (decimalValue digits)
  | older {digits : List Char} (numeral : IsNumeral digits) :
    IsIndexText ('_' :: digits) (decimalValue digits)

/-- Nothing, or a dot and ASCII letters or digits, at least one of them. -/
def IsPlainExtension : List Char → Prop
  | [] => True
  | c :: suffix => c = '.' ∧ suffix ≠ [] ∧ ∀ d ∈ suffix, d.isAlphanum = true

instance : DecidablePred IsPlainExtension
  | [] => inferInstanceAs (Decidable True)
  | c :: suffix =>
    decidable_of_iff (c = '.' ∧ suffix ≠ [] ∧ suffix.all (·.isAlphanum) = true)
      (by simp [IsPlainExtension])

namespace IsPlainExtension

variable {extension : List Char} (plain : IsPlainExtension extension)
include plain

theorem isExtension : isExtension extension = true := by
  match extension, plain with
  | [], _ => rfl
  | [_], ⟨_, some_char, _⟩ => exact absurd rfl some_char
  | c :: d :: suffix, ⟨dot, _, alphanumeric⟩ =>
    subst dot
    have noBreak : Char.isAlphanum '\n' = false := by decide
    rw [Naming.isExtension, List.all_eq_true]
    intro e member
    rw [bne_iff_ne]
    rintro rfl
    have alphanumeric := alphanumeric _ member
    rw [noBreak] at alphanumeric
    cases alphanumeric

theorem no_underscore : '_' ∉ extension := by
  cases extension with
  | nil => simp
  | cons c suffix =>
    obtain ⟨rfl, -, alphanumeric⟩ := plain
    intro member
    have inSuffix : '_' ∈ suffix := (List.mem_cons.mp member).resolve_left (by decide)
    have alphanumeric := alphanumeric _ inSuffix
    revert alphanumeric
    decide

theorem bracketedIndex_currentExtension : bracketedIndex (currentExtension extension) = none := by
  unfold currentExtension
  split
  · decide
  · cases extension with
    | nil => rfl
    | cons c suffix =>
      obtain ⟨rfl, -⟩ := plain
      rfl

end IsPlainExtension

/-- The milliseconds for which an index counts when it is read as a signed number of 64 bits. -/
def countedMillis (index : Nat) : Nat := if index ≤ maxSigned64 then index else 0

theorem duplicateMillis_of_isNumeral {index : List Char} (numeral : IsNumeral index)
    (date time : List Char) :
    Stamp.duplicateMillis ⟨date, time, some index⟩ = countedMillis (decimalValue index) := by
  rw [Stamp.duplicateMillis, Option.bind_some, readNumeralUpTo, readNumeral_of_isNumeral numeral,
    countedMillis]
  split
  next small => simp [Option.filter, small]
  next large => simp [Option.filter, large]

section Dated

variable {date time : List Char} (digits : StampDigits date time)
include digits

/-- The spelling of an index does not matter once the name is regulated. -/
theorem exists_regulated (kind : MediaKind) {index : List Char} {millis : Nat}
    (indexText : IsIndexText index millis) {extension : List Char}
    (plain : IsPlainExtension extension) (zone : Zone) :
    ∃ stamp, findStamp (regulateChars (datedBase kind date time ++ index ++ extension) zone) =
      some stamp ∧ stamp.date = date ∧ stamp.time = time ∧
      stamp.duplicateMillis = countedMillis millis := by
  have found := findStamp_dated digits kind
  rw [List.append_assoc]
  -- a name without an index stays without one, brackets stay, and an older index is put into them
  cases indexText with
  | none =>
    refine ⟨⟨date, time, none⟩, ?_, rfl, rfl, rfl⟩
    rw [List.nil_append, regulateChars_dated digits kind plain.no_underscore, found,
      plain.bracketedIndex_currentExtension]
    rfl
  | @bracketed index numeral =>
    have number : ∀ c ∈ index, isDigit c = true :=
      fun c member => isDigit_of_isAsciiDigit (numeral.2 c member)
    have whole : ' ' :: '(' :: index ++ [')'] ++ extension =
        ' ' :: '(' :: index ++ ')' :: extension := by simp
    have noUnderscore : '_' ∉ ' ' :: '(' :: index ++ ')' :: extension := by
      have noDigit : '_' ∉ index := fun member => absurd (numeral.2 _ member) (by decide)
      simp [noDigit, plain.no_underscore]
    have current : ' ' :: '(' :: index ++ ')' :: extension ≠ legacyVideoExtension.toList := by
      simp [legacyVideoExtension]
    refine ⟨⟨date, time, some index⟩, ?_, rfl, rfl, duplicateMillis_of_isNumeral numeral date time⟩
    rw [whole, regulateChars_dated digits kind noUnderscore, currentExtension, if_neg current,
      found, bracketedIndex_append numeral.1 number]
    rfl
  | @older index numeral =>
    have number : ∀ c ∈ index, isDigit c = true :=
      fun c member => isDigit_of_isAsciiDigit (numeral.2 c member)
    refine ⟨⟨date, time, some index⟩, ?_, rfl, rfl, duplicateMillis_of_isNumeral numeral date time⟩
    rw [regulateChars_olderIndex digits kind numeral.1 number plain.isExtension, found,
      bracketedIndex_append numeral.1 number]
    rfl

/-- A name is dated by its stamp, and as many milliseconds later as its index says, in whatever
spelling. -/
theorem captureTimeOfChars_indexText (kind : MediaKind) {index : List Char} {millis : Nat}
    (indexText : IsIndexText index millis) {extension : List Char}
    (plain : IsPlainExtension extension) (zone : Zone) :
    captureTimeOfChars (datedBase kind date time ++ index ++ extension) zone =
      match Stamp.wallClock ⟨date, time, none⟩ with
      | none => some .epoch
      | some wall =>
        let shifted := wall.later (countedMillis millis)
        if shifted.inRange then some ⟨shifted, zone.offsetOf wall⟩ else none := by
  obtain ⟨⟨_, _, behind⟩, found, rfl, rfl, counted⟩ :=
    exists_regulated digits kind indexText plain zone
  rw [captureTimeOfChars, found]
  dsimp only
  rw [counted]
  rfl

end Dated

/-! ### Names that count up -/

/-- The index in the name that is tried after so many others. -/
def countedIndex : Nat → List Char
  | 0 => []
  | n + 1 => ' ' :: '(' :: numeral (n + 1) ++ [')']

theorem indexed_eq_countedIndex (front : List Char) (n : Nat) (extension : List Char) :
    indexed front (n + 1) extension = front ++ countedIndex (n + 1) ++ extension := by
  simp [indexed, countedIndex]

theorem isIndexText_countedIndex (n : Nat) : IsIndexText (countedIndex n) n := by
  cases n with
  | zero => exact .none
  | succ n =>
    obtain ⟨number, value⟩ := (readNumeral_eq_some_iff _ _).mp (readNumeral_numeral (n + 1))
    have indexText := IsIndexText.bracketed number
    rwa [value] at indexText

theorem countedIndex_inj {n k : Nat} (same : countedIndex n = countedIndex k) : n = k := by
  cases n with
  | zero =>
    cases k with
    | zero => rfl
    | succ k => cases same
  | succ n =>
    cases k with
    | zero => cases same
    | succ k =>
      have around := congrArg (fun index => [] ++ index ++ []) same
      rw [← indexed_eq_countedIndex, ← indexed_eq_countedIndex] at around
      exact indexed_inj around

/-- The names after one without an index count up. -/
theorem iterate_nextChars_dated {date time : List Char} (digits : StampDigits date time)
    (kind : MediaKind) {extension : List Char} (plain : IsPlainExtension extension) {n : Nat}
    (small : n ≤ maxWord64) :
    nextChars^[n] (datedBase kind date time ++ extension) =
      datedBase kind date time ++ countedIndex n ++ extension := by
  cases n with
  | zero => simp [countedIndex]
  | succ n =>
    have some_char : datedBase kind date time ≠ [] := by simp [datedBase]
    have dot : '.' ∉ datedBase kind date time :=
      not_mem_datedBase digits (by decide) (by decide) (by cases kind <;> decide)
    have blank : ' ' ∉ datedBase kind date time :=
      not_mem_datedBase digits (by decide) (by decide) (by cases kind <;> decide)
    rw [iterate_nextChars_of_plain some_char dot blank plain.isExtension, Nat.min_eq_left small,
      indexed_eq_countedIndex]

theorem iterate_nextName_dated {date time : List Char} (digits : StampDigits date time)
    (kind : MediaKind) {extension : List Char} (plain : IsPlainExtension extension) {n : Nat}
    (small : n ≤ maxWord64) :
    nextName^[n] (String.ofList (datedBase kind date time ++ extension)) =
      String.ofList (datedBase kind date time ++ countedIndex n ++ extension) := by
  rw [← String.toList_inj, toList_iterate_nextName, String.toList_ofList, String.toList_ofList,
    iterate_nextChars_dated digits kind plain small]

end CameraRoll.Naming
