import CameraRoll.Json.Writer
import CameraRoll.Proofs.Json.Readable

/-!
The tokens of what is written. A value is `Exact` if nothing is lost when it is written: all numbers
but the negative zero have to be whole. Main statement: `tokens_write`, by which the tokens in the
text of an exact value are those of the value, in front of the tokens of whatever follows.
-/

namespace CameraRoll

namespace JsonValue

mutual

/-- Of the numbers that are not whole, only the negative zero is read as it was written. -/
def Exact : JsonValue → Prop
  | .real x => x = -(0 : Float)
  | .array items => ItemsExact items
  | .object members => MembersExact members
  | _ => True

/-- All items are exact. -/
def ItemsExact : List JsonValue → Prop
  | [] => True
  | item :: items => Exact item ∧ ItemsExact items

/-- All values of members are exact. -/
def MembersExact : List (String × JsonValue) → Prop
  | [] => True
  | (_, value) :: members => Exact value ∧ MembersExact members

end

theorem membersExact_iff {members : List (String × JsonValue)} :
    MembersExact members ↔ ∀ member ∈ members, member.2.Exact := by
  induction members with
  | nil => simp [MembersExact]
  | cons member members ih =>
    obtain ⟨key, value⟩ := member
    simp [MembersExact, ih]

end JsonValue

namespace Json

open Text

/-! ### Quoted texts -/

/-- An escaped character is read back. -/
theorem unquote_escape (c : Char) (rest : List Char) :
    unquote (escape c ++ rest) = (unquote rest).map fun (s, rest) => (c :: s, rest) := by
  unfold escape
  split
  next e short =>
    unfold shortEscape? at short
    split at short <;> cases short <;> rfl
  next long =>
    split
    next control =>
      -- the thirty-two control characters one by one
      have unit : ∀ n < 0x20,
          hexUnit? '0' '0' (hexDigit (n / 16)) (hexDigit (n % 16)) = some n := by decide
      have small : isHighSurrogate c.toNat = false ∧ isLowSurrogate c.toNat = false := by
        simp only [isHighSurrogate, isLowSurrogate, Bool.and_eq_false_iff, decide_eq_false_iff_not]
        omega
      simp only [List.cons_append, List.nil_append]
      rw [unquote, unit c.toNat control]
      simp only [small, Char.ofNat_toNat]
      rfl
    next printed =>
      have noQuote : c ≠ '"' := by
        rintro rfl
        simp [shortEscape?] at long
      have noBackslash : c ≠ '\\' := by
        rintro rfl
        simp [shortEscape?] at long
      rw [List.singleton_append, unquote]
      · rw [if_neg (by simp [printed, noBackslash])]
      · exact noQuote
      all_goals
        intros
        exact noBackslash ‹_›

theorem unquote_flatMap_escape (s rest : List Char) :
    unquote (s.flatMap escape ++ '"' :: rest) = some (s, rest) := by
  induction s with
  | nil => rfl
  | cons c s ih => rw [List.flatMap_cons, List.append_assoc, unquote_escape, ih, Option.map_some]

/-! ### Numbers -/

/-- What follows does not go on with a number. -/
def EndsNumber (rest : List Char) : Prop :=
  ∀ c ∈ rest.head?, isAsciiDigit c = false ∧ c ≠ '.' ∧ c ≠ 'e' ∧ c ≠ 'E'

theorem spanAsciiDigits_append {digits rest : List Char}
    (all : ∀ c ∈ digits, isAsciiDigit c = true) (ends : EndsNumber rest) :
    spanAsciiDigits (digits ++ rest) = (digits, rest) := by
  rw [spanAsciiDigits, List.takeWhile_append_of_pos all, List.dropWhile_append_of_pos all]
  cases rest with
  | nil => simp
  | cons c rest => simp [(ends c rfl).1]

/-- A numeral has no zero in front of other digits. -/
theorem numeral_cases (n : Nat) :
    numeral n = ['0'] ∨ ∃ c rest, numeral n = c :: rest ∧ c ≠ '0' := by
  induction n using Nat.strongRecOn with
  | _ n ih =>
    rw [numeral]
    split
    next small =>
      by_cases zero : n = 0
      · exact Or.inl (by rw [zero]; rfl)
      · refine Or.inr ⟨digitChar n, [], rfl, fun same => zero ?_⟩
        have code := congrArg Char.toNat same
        rw [digitChar_toNat small] at code
        simpa using code
    next large =>
      -- more digits follow, so that the front is not zero
      rcases ih (n / 10) (by omega) with zero | ⟨c, rest, same, noZero⟩
      · have value := readNumeral_numeral (n / 10)
        rw [zero] at value
        have : n / 10 = 0 := (Option.some.inj value).symm
        omega
      · exact Or.inr ⟨c, rest ++ [digitChar (n % 10)], by rw [same, List.cons_append], noZero⟩

theorem wholeDigitsAt_numeral (n : Nat) {rest : List Char} (ends : EndsNumber rest) :
    wholeDigitsAt (numeral n ++ rest) = some (numeral n, rest) := by
  rcases numeral_cases n with zero | ⟨c, digits, same, noZero⟩
  · rw [zero]
    rfl
  · have span := spanAsciiDigits_append (isAsciiDigit_of_mem_numeral n) ends
    rw [same, List.cons_append] at span ⊢
    rw [wholeDigitsAt, digitsAt, span]
    intro tail same'
    exact noZero (List.cons.inj same').1

theorem fractionAt_of_ends {rest : List Char} (ends : EndsNumber rest) :
    fractionAt rest = some (none, rest) := by
  unfold fractionAt
  split
  next s => exact absurd rfl (ends '.' rfl).2.1
  · rfl

theorem exponentAt_of_ends {rest : List Char} (ends : EndsNumber rest) :
    exponentAt rest = some (none, rest) := by
  unfold exponentAt
  split
  next c s =>
    obtain ⟨-, -, noSmall, noLarge⟩ := ends c rfl
    rw [if_neg (by simp [noSmall, noLarge])]
  · rfl

theorem numberAt_wholeText (n : Int) {rest : List Char} (ends : EndsNumber rest) :
    numberAt (wholeText n ++ rest) = some (⟨n < 0, numeral n.natAbs, none, none⟩, rest) := by
  have digits := wholeDigitsAt_numeral n.natAbs ends
  unfold wholeText
  split
  next negative =>
    rw [List.cons_append, numberAt]
    simp only [digits, Option.bind_eq_bind, Option.bind_some, fractionAt_of_ends ends,
      exponentAt_of_ends ends, negative, decide_true]
    rfl
  next positive =>
    -- digits are not taken for a sign
    have unsigned : ∀ tail, numeral n.natAbs ++ rest ≠ '-' :: tail := by
      intro tail same
      obtain ⟨c, digits, split⟩ := List.exists_cons_of_ne_nil (numeral_ne_nil n.natAbs)
      have digit := isAsciiDigit_of_mem_numeral n.natAbs c (by simp [split])
      rw [split, List.cons_append] at same
      rw [(List.cons.inj same).1] at digit
      cases digit
    rw [numberAt]
    case x => exact unsigned
    simp only [digits, Option.bind_eq_bind, Option.bind_some, fractionAt_of_ends ends,
      exponentAt_of_ends ends, positive, decide_false]
    rfl

theorem value_wholeText {n : Int} (least : -(maxSigned64 + 1 : Int) ≤ n) (most : n ≤ maxWord64) :
    NumberLiteral.value ⟨n < 0, numeral n.natAbs, none, none⟩ = some (.whole n) := by
  simp only [NumberLiteral.value, Option.isSome_none, Bool.or_self, Bool.false_eq_true, if_false,
    readNumeral_numeral, decide_eq_true_eq]
  by_cases negative : n < 0
  · rw [if_pos negative, if_neg (by simp; omega)]
    simp only
    congr
    omega
  · rw [if_neg negative, if_neg (by omega)]
    simp only
    congr
    omega

/-! ### Tokens -/

theorem tokens_of_tokenAt {s rest : List Char} {token : Token}
    (noBlank : ∀ c ∈ s.head?, isSpace c = false)
    (taken : tokenAt s = some (token, rest)) : tokens s = (tokens rest).map (token :: ·) := by
  cases s with
  | nil => cases taken
  | cons c s =>
    rw [tokens, if_neg (by simp [noBlank c rfl])]
    split
    next none => cases none.symm.trans taken
    next token' rest' same =>
      cases same.symm.trans taken
      rfl

theorem tokens_newline (level : Nat) (rest : List Char) :
    tokens (newline level ++ rest) = tokens rest := by
  have blanks (count : Nat) : tokens (List.replicate count ' ' ++ rest) = tokens rest := by
    induction count with
    | zero => rfl
    | succ count ih => rw [List.replicate_succ, List.cons_append, tokens, if_pos (by rfl), ih]
  rw [newline, List.cons_append, tokens, if_pos (by rfl), blanks]

theorem tokens_blank (rest : List Char) : tokens (' ' :: rest) = tokens rest := by
  rw [tokens, if_pos (by rfl)]

/-- A mark is a token of its own. -/
theorem tokens_mark {c : Char} {token : Token} (mark : mark? c = some token) (rest : List Char) :
    tokens (c :: rest) = (tokens rest).map (token :: ·) := by
  refine tokens_of_tokenAt ?_ ?_
  · rintro _ ⟨⟩
    unfold mark? at mark
    split at mark <;> first | rfl | cases mark
  · unfold mark? at mark
    split at mark <;> first | (cases mark; rfl) | cases mark

theorem tokens_quote (s rest : List Char) :
    tokens (quote s ++ rest) = (tokens rest).map (.scalar (.text (String.ofList s)) :: ·) := by
  refine tokens_of_tokenAt ?_ ?_
  · rintro _ ⟨⟩
    rfl
  · have read := unquote_flatMap_escape s rest
    rw [quote, List.cons_append, List.cons_append, List.append_assoc, List.singleton_append,
      tokenAt, read]
    rfl

/-- A character with which a number can begin. -/
def BeginsNumber (c : Char) : Prop := c = '-' ∨ isAsciiDigit c = true

theorem wholeText_cons (n : Int) : ∃ c tail, wholeText n = c :: tail ∧ BeginsNumber c := by
  unfold wholeText
  split
  · exact ⟨'-', _, rfl, Or.inl rfl⟩
  · obtain ⟨c, digits, split⟩ := List.exists_cons_of_ne_nil (numeral_ne_nil n.natAbs)
    exact ⟨c, digits, split, Or.inr (isAsciiDigit_of_mem_numeral n.natAbs c (by simp [split]))⟩

theorem BeginsNumber.ne {c d : Char} (number : BeginsNumber c) (noMinus : d ≠ '-')
    (noDigit : isAsciiDigit d = false) : c ≠ d := by
  rintro rfl
  rcases number with minus | digit
  · exact noMinus minus
  · simp [noDigit] at digit

/-- What begins like a number is taken for one. -/
theorem tokenAt_of_beginsNumber {c : Char} (number : BeginsNumber c) (s : List Char) :
    tokenAt (c :: s) = do
      let (literal, rest) ← numberAt (c :: s)
      return (.scalar (← literal.value), rest) := by
  have noMark : mark? c = none := by
    unfold mark?
    split <;> first | rfl | exact absurd rfl (number.ne (by decide) (by decide))
  rw [tokenAt]
  · rw [noMark]
  · rintro _ rfl
    exact absurd rfl (number.ne (by decide) (by decide))
  · rintro _ rfl
    exact absurd rfl (number.ne (by decide) (by decide))
  · rintro _ rfl
    exact absurd rfl (number.ne (by decide) (by decide))
  · rintro rfl
    exact absurd rfl (number.ne (by decide) (by decide))

theorem tokens_wholeText {n : Int} (least : -(maxSigned64 + 1 : Int) ≤ n) (most : n ≤ maxWord64)
    {rest : List Char} (ends : EndsNumber rest) :
    tokens (wholeText n ++ rest) = (tokens rest).map (.scalar (.whole n) :: ·) := by
  obtain ⟨c, tail, split, number⟩ := wholeText_cons n
  have read := numberAt_wholeText n ends
  rw [split, List.cons_append] at read ⊢
  refine tokens_of_tokenAt ?_ ?_
  · rintro _ ⟨⟩
    simp only [isSpace, Bool.or_eq_false_iff, beq_eq_false_iff_ne]
    refine ⟨⟨⟨?_, ?_⟩, ?_⟩, ?_⟩ <;> exact number.ne (by decide) (by decide)
  · rw [tokenAt_of_beginsNumber number, read, Option.bind_eq_bind, Option.bind_some]
    simp only [value_wholeText least most]
    rfl

theorem tokens_negativeZero {rest : List Char} (ends : EndsNumber rest) :
    tokens (floatText realStyle (-(0 : Float)) ++ rest) =
      (tokens rest).map (.scalar (.real (-(0 : Float))) :: ·) := by
  have written : floatText realStyle (-(0 : Float)) = ['-', '0', '.', '0'] := by decide
  have zero : digitsAt ('0' :: rest) = some (['0'], rest) := by
    have digit : ∀ c ∈ ['0'], isAsciiDigit c = true := by
      intro c member
      rw [List.mem_singleton.mp member]
      rfl
    have span := spanAsciiDigits_append digit ends
    rw [List.singleton_append] at span
    rw [digitsAt, span]
  have read : numberAt ('-' :: '0' :: '.' :: '0' :: rest) =
      some (⟨true, ['0'], some ['0'], none⟩, rest) := by
    simp only [numberAt, wholeDigitsAt, fractionAt, zero, Option.bind_eq_bind, Option.bind_some,
      Option.map_some, exponentAt_of_ends ends]
    rfl
  -- with a fraction the zero keeps its sign
  rw [written]
  refine tokens_of_tokenAt ?_ ?_
  · rintro _ ⟨⟩
    rfl
  · simp only [List.cons_append, List.nil_append]
    rw [tokenAt_of_beginsNumber (Or.inl rfl), read]
    rfl

/-! ### Whole values -/

mutual

/-- The tokens of a value that is written. -/
def tokensOf : JsonValue → List Token
  | .array [] => [.openArray, .closeArray]
  | .array (item :: items) => .openArray :: tokensOf item ++ itemTokens items ++ [.closeArray]
  | .object [] => [.openObject, .closeObject]
  | .object ((key, value) :: members) =>
    .openObject :: .scalar (.text key) :: .colon :: tokensOf value ++ memberTokens members
      ++ [.closeObject]
  | value => [.scalar value]

/-- The tokens of items behind the first one. -/
def itemTokens : List JsonValue → List Token
  | [] => []
  | item :: items => .comma :: tokensOf item ++ itemTokens items

/-- The tokens of members behind the first one. -/
def memberTokens : List (String × JsonValue) → List Token
  | [] => []
  | (key, value) :: members =>
    .comma :: .scalar (.text key) :: .colon :: tokensOf value ++ memberTokens members

end

theorem endsNumber_newline (level : Nat) (rest : List Char) :
    EndsNumber (newline level ++ rest) := by
  rintro _ ⟨⟩
  decide

theorem endsNumber_writeItems (level outer : Nat) (items : List JsonValue) (rest : List Char) :
    EndsNumber (writeItems level items ++ (newline outer ++ rest)) := by
  cases items with
  | nil => exact endsNumber_newline outer rest
  | cons item items =>
    rw [writeItems]
    rintro _ ⟨⟩
    decide

theorem endsNumber_writeMembers (level outer : Nat) (members : List (String × JsonValue))
    (rest : List Char) : EndsNumber (writeMembers level members ++ (newline outer ++ rest)) := by
  cases members with
  | nil => exact endsNumber_newline outer rest
  | cons member members =>
    rw [writeMembers]
    rintro _ ⟨⟩
    decide

mutual

/-- What is written of a value are its tokens with blanks between them. -/
theorem tokens_write (level : Nat) {depth : Nat} : (value : JsonValue) → value.Readable depth →
    value.Exact → {rest : List Char} → EndsNumber rest →
    tokens (write level value ++ rest) = (tokens rest).map (tokensOf value ++ ·)
  | .null, _, _, rest, _ => by
    rw [write]
    exact tokens_of_tokenAt (by rintro _ ⟨⟩; rfl) rfl
  | .bool true, _, _, rest, _ => by
    rw [write]
    exact tokens_of_tokenAt (by rintro _ ⟨⟩; rfl) rfl
  | .bool false, _, _, rest, _ => by
    rw [write]
    exact tokens_of_tokenAt (by rintro _ ⟨⟩; rfl) rfl
  | .whole n, readable, _, rest, ends => by
    rw [JsonValue.Readable] at readable
    rw [write]
    exact tokens_wholeText readable.1 readable.2 ends
  | .real x, _, exact, rest, ends => by
    rw [JsonValue.Exact] at exact
    subst exact
    rw [write]
    exact tokens_negativeZero ends
  | .text s, _, _, rest, _ => by
    rw [write, tokens_quote, String.ofList_toList]
    rfl
  | .array [], _, _, rest, _ => by
    rw [write, List.cons_append, tokens_mark rfl, List.singleton_append, tokens_mark rfl]
    simp [tokensOf, Function.comp_def]
  | .array (item :: items), readable, exact, rest, _ => by
    rw [JsonValue.Readable, JsonValue.ItemsReadable] at readable
    rw [JsonValue.Exact, JsonValue.ItemsExact] at exact
    -- an item is followed by a comma or a new line, so that a number ends there
    have first := tokens_write (level + 1) item readable.2.1 exact.1
      (endsNumber_writeItems (level + 1) level items (']' :: rest))
    have others := tokens_writeItems (level + 1) level items readable.2.2 exact.2 (']' :: rest)
    simp only [write, List.cons_append, List.append_assoc, List.nil_append]
    rw [tokens_mark rfl, tokens_newline, first, others, tokens_mark rfl]
    simp [tokensOf, Function.comp_def]
  | .object [], _, _, rest, _ => by
    rw [write, List.cons_append, tokens_mark rfl, List.singleton_append, tokens_mark rfl]
    simp [tokensOf, Function.comp_def]
  | .object ((key, value) :: members), readable, exact, rest, _ => by
    rw [JsonValue.Readable, JsonValue.MembersReadable] at readable
    rw [JsonValue.Exact, JsonValue.MembersExact] at exact
    have first := tokens_write (level + 1) value readable.2.2.1 exact.1
      (endsNumber_writeMembers (level + 1) level members ('}' :: rest))
    have others := tokens_writeMembers (level + 1) level members readable.2.2.2 exact.2
      ('}' :: rest)
    simp only [write, List.cons_append, List.append_assoc, List.nil_append]
    rw [tokens_mark rfl, tokens_newline, tokens_quote, tokens_mark rfl, tokens_blank, first, others,
      tokens_mark rfl, String.ofList_toList]
    simp [tokensOf, Function.comp_def]

/-- The same for items behind the first one. -/
theorem tokens_writeItems (level outer : Nat) {depth : Nat} : (items : List JsonValue) →
    JsonValue.ItemsReadable depth items → JsonValue.ItemsExact items → (rest : List Char) →
    tokens (writeItems level items ++ (newline outer ++ rest)) =
      (tokens rest).map (itemTokens items ++ ·)
  | [], _, _, rest => by
    rw [writeItems, List.nil_append, tokens_newline]
    simp [itemTokens]
  | item :: items, readable, exact, rest => by
    rw [JsonValue.ItemsReadable] at readable
    rw [JsonValue.ItemsExact] at exact
    have first := tokens_write level item readable.1 exact.1
      (endsNumber_writeItems level outer items rest)
    have others := tokens_writeItems level outer items readable.2 exact.2 rest
    simp only [writeItems, List.cons_append, List.append_assoc]
    rw [tokens_mark rfl, tokens_newline, first, others]
    simp [itemTokens, Function.comp_def]

/-- The same for members behind the first one. -/
theorem tokens_writeMembers (level outer : Nat) {depth : Nat} :
    (members : List (String × JsonValue)) → JsonValue.MembersReadable depth members →
    JsonValue.MembersExact members → (rest : List Char) →
    tokens (writeMembers level members ++ (newline outer ++ rest)) =
      (tokens rest).map (memberTokens members ++ ·)
  | [], _, _, rest => by
    rw [writeMembers, List.nil_append, tokens_newline]
    simp [memberTokens]
  | (key, value) :: members, readable, exact, rest => by
    rw [JsonValue.MembersReadable] at readable
    rw [JsonValue.MembersExact] at exact
    have first := tokens_write level value readable.1 exact.1
      (endsNumber_writeMembers level outer members rest)
    have others := tokens_writeMembers level outer members readable.2 exact.2 rest
    simp only [writeMembers, List.cons_append, List.append_assoc]
    rw [tokens_mark rfl, tokens_newline, tokens_quote, tokens_mark rfl, tokens_blank, first, others,
      String.ofList_toList]
    simp [memberTokens, Function.comp_def]

end

end Json

end CameraRoll
