import CameraRoll.Naming.Regulation
import CameraRoll.Naming.Thumbnail
import CameraRoll.Proofs.Naming.Succession
import CameraRoll.Proofs.Text.Padded

/-!
Names made from names. Main statements: `isValidName_regulateName`, that the canonical form of a
valid name is valid, `isThumbnailName_thumbnailName`, that the name of a thumbnail says so, and
`Derived.isValidName`, that all that can be made of a valid name is valid.
-/

namespace CameraRoll.Naming

open CameraRoll.Calendar CameraRoll.Text

/-! ### The parts of a stamped name -/

/-- What the leftmost success finds is found in what is left from some place on. -/
theorem leftmost_eq_some {α : Type} {recognise : List Char → Option α} {s : List Char} {a : α}
    (found : leftmost recognise s = some a) :
    ∃ front rest, s = front ++ rest ∧ recognise rest = some a := by
  induction s with
  | nil => exact ⟨[], [], rfl, found⟩
  | cons c s ih =>
    cases here : recognise (c :: s) with
    | some b =>
      rw [leftmost_of_some here] at found
      exact ⟨[], c :: s, rfl, here.trans found⟩
    | none =>
      rw [leftmost_cons_of_none here] at found
      obtain ⟨front, rest, rfl, later⟩ := ih found
      exact ⟨c :: front, rest, rfl, later⟩

/-- A search passes over a front at none of whose characters it succeeds. -/
theorem leftmost_append {α : Type} {recognise : List Char → Option α} {front rest : List Char}
    (fails : ∀ c back, c :: back <:+ front → recognise (c :: back ++ rest) = none) :
    leftmost recognise (front ++ rest) = leftmost recognise rest := by
  induction front with
  | nil => rfl
  | cons c front ih =>
    have here : recognise (c :: (front ++ rest)) = none := fails c front (List.suffix_refl _)
    rw [List.cons_append, leftmost_cons_of_none here]
    exact ih fun d back inside => fails d back (inside.trans (List.suffix_cons c front))

/-- The digits that are taken are those that stand at the front, as many as are asked for. -/
theorem takeDigits_eq_some_iff {count : Nat} {s digits rest : List Char} :
    takeDigits count s = some (digits, rest) ↔
      s = digits ++ rest ∧ digits.length = count ∧ ∀ c ∈ digits, isDigit c = true := by
  constructor
  · intro taken
    induction count generalizing s digits with
    | zero =>
      simp only [takeDigits, Option.some.injEq, Prod.mk.injEq] at taken
      obtain ⟨rfl, rfl⟩ := taken
      exact ⟨rfl, rfl, by simp⟩
    | succ count ih =>
      cases s with
      | nil => cases taken
      | cons c s =>
        simp only [takeDigits] at taken
        split at taken
        next digit =>
          obtain ⟨⟨more, left⟩, later, same⟩ := Option.map_eq_some_iff.mp taken
          simp only [Prod.mk.injEq] at same
          obtain ⟨rfl, rfl⟩ := same
          obtain ⟨rfl, length, number⟩ := ih later
          exact ⟨rfl, by simp [length], List.forall_mem_cons.mpr ⟨digit, number⟩⟩
        · cases taken
  · rintro ⟨rfl, rfl, number⟩
    induction digits with
    | nil => rfl
    | cons c digits ih =>
      have later := ih fun d member => number d (List.mem_cons_of_mem _ member)
      simp [takeDigits, number c List.mem_cons_self, later]

/-- A stamp is eight digits and six digits, a `_` before each, whatever follows. -/
theorem stampDigits_eq_some_iff {s date time rest : List Char} :
    stampDigits s = some (date, time, rest) ↔
      s = '_' :: date ++ '_' :: time ++ rest ∧ date.length = 8 ∧ time.length = 6 ∧
        ∀ c ∈ date ++ time, isDigit c = true := by
  constructor
  · intro found
    unfold stampDigits at found
    split at found
    next s =>
      obtain ⟨⟨digits, between⟩, first, found⟩ := Option.bind_eq_some_iff.mp found
      dsimp only at found
      split at found
      next between =>
        obtain ⟨⟨digits', left⟩, second, found⟩ := Option.bind_eq_some_iff.mp found
        simp only [Option.some.injEq, Prod.mk.injEq] at found
        obtain ⟨rfl, rfl, rfl⟩ := found
        obtain ⟨rfl, eight, inDate⟩ := takeDigits_eq_some_iff.mp first
        obtain ⟨rfl, six, inTime⟩ := takeDigits_eq_some_iff.mp second
        exact ⟨by simp, eight, six, List.forall_mem_append.mpr ⟨inDate, inTime⟩⟩
      · cases found
    · cases found
  · rintro ⟨rfl, eight, six, number⟩
    obtain ⟨inDate, inTime⟩ := List.forall_mem_append.mp number
    have first : takeDigits 8 (date ++ '_' :: (time ++ rest)) = some (date, '_' :: (time ++ rest)) :=
      takeDigits_eq_some_iff.mpr ⟨rfl, eight, inDate⟩
    have second : takeDigits 6 (time ++ rest) = some (time, rest) :=
      takeDigits_eq_some_iff.mpr ⟨rfl, six, inTime⟩
    simp [stampDigits, first, second]

/-- A base is three word characters and the stamp behind them. -/
theorem exists_of_baseAt {s base rest : List Char} (found : baseAt s = some (base, rest)) :
    ∃ a b c behind date time, s = a :: b :: c :: behind ∧
      (isWord a && isWord b && isWord c) = true ∧
      stampDigits behind = some (date, time, rest) ∧
      base = [a, b, c] ++ '_' :: date ++ '_' :: time := by
  unfold baseAt at found
  split at found
  next a b c behind =>
    split at found
    next words =>
      obtain ⟨⟨date, time, left⟩, stamp, same⟩ := Option.map_eq_some_iff.mp found
      simp only [Prod.mk.injEq] at same
      obtain ⟨rfl, rfl⟩ := same
      exact ⟨a, b, c, behind, date, time, rfl, words, stamp, rfl⟩
    · cases found
  · cases found

theorem eq_of_baseAt {s base rest : List Char} (found : baseAt s = some (base, rest)) :
    s = base ++ rest ∧ base.length = 19 := by
  obtain ⟨a, b, c, behind, date, time, rfl, -, stamp, rfl⟩ := exists_of_baseAt found
  obtain ⟨rfl, eight, six, -⟩ := stampDigits_eq_some_iff.mp stamp
  exact ⟨by simp, by simp [eight, six]⟩

/-- A stamped name is its base, the digits of its index behind a `_` if it has one, and its
extension. -/
theorem exists_of_partsAt {s : List Char} {parts : NameParts} (found : partsAt s = some parts) :
    ∃ rest, baseAt s = some (parts.base, rest) ∧ isExtension parts.extension = true ∧
      (parts.index = none ∧ rest = parts.extension ∨
        ∃ digits, parts.index = some digits ∧ digits ≠ [] ∧ (∀ c ∈ digits, isDigit c = true) ∧
          rest = '_' :: digits ++ parts.extension) := by
  unfold partsAt at found
  obtain ⟨⟨base, rest⟩, start, ends⟩ := Option.bind_eq_some_iff.mp found
  dsimp only at ends
  split at ends
  next accepted =>
    cases ends
    exact ⟨rest, start, accepted, .inl ⟨rfl, rfl⟩⟩
  · split at ends
    next behind _ =>
      split at ends
      next accepted =>
        cases ends
        rw [Bool.and_eq_true] at accepted
        have pieces : (spanDigits behind).1 ++ (spanDigits behind).2 = behind :=
          List.takeWhile_append_dropWhile
        have number : ∀ c ∈ (spanDigits behind).1, isDigit c = true :=
          fun c member => List.all_eq_true.mp (List.all_takeWhile ..) c member
        refine ⟨_, start, accepted.2, .inr ⟨_, rfl, by simpa using accepted.1, number, ?_⟩⟩
        rw [List.cons_append, pieces]
      · cases ends
    · cases ends

theorem mem_of_partsAt {s : List Char} {parts : NameParts} (found : partsAt s = some parts) :
    parts.base.length = 19 ∧
      ∀ c, c ∈ parts.base ∨ c ∈ parts.index.getD [] ∨ c ∈ parts.extension → c ∈ s := by
  obtain ⟨rest, start, -, pieces⟩ := exists_of_partsAt found
  obtain ⟨rfl, length⟩ := eq_of_baseAt start
  refine ⟨length, fun c member => ?_⟩
  rcases pieces with ⟨none, rfl⟩ | ⟨digits, some, -, -, rfl⟩
  · simpa [none] using member
  · rw [some, Option.getD_some] at member
    simp only [List.cons_append, List.mem_append, List.mem_cons]
    rcases member with inBase | inIndex | inExtension
    · exact .inl inBase
    · exact .inr (.inr (.inl inIndex))
    · exact .inr (.inr (.inr inExtension))

/-! ### Characters of canonical names -/

private theorem isSeparator_of_mem_padded {width n : Nat} {c : Char}
    (member : c ∈ paddedNumeral width n) : isSeparator c = false :=
  isSeparator_of_isDigit (isDigit_of_isAsciiDigit (isAsciiDigit_of_mem_paddedNumeral member))

private theorem isSeparator_of_mem_year {year : Int} {c : Char} (member : c ∈ yearField year) :
    isSeparator c = false := by
  unfold yearField at member
  split at member
  · rcases List.mem_cons.mp member with rfl | digit
    · decide
    · exact isSeparator_of_mem_padded digit
  · exact isSeparator_of_mem_padded member

private theorem isSeparator_of_all {chars : List Char}
    (plain : (chars.all fun c => !isSeparator c) = true) : ∀ c ∈ chars, isSeparator c = false :=
  fun c member => by simpa using List.all_eq_true.mp plain c member

theorem isValidName_canonicalName (kind : MediaKind) (instant : Instant) (zone : Zone) :
    isValidName (canonicalName kind instant zone) = true := by
  have ends : (∀ c ∈ (startOf kind).toList, isSeparator c = false) ∧
      (∀ c ∈ (extensionOf kind).toList, isSeparator c = false) ∧
      3 ≤ (startOf kind).toList.length := by
    cases kind <;> exact ⟨isSeparator_of_all (by decide), isSeparator_of_all (by decide), by decide⟩
  apply isValidName_of_chars
  · rw [canonicalName, String.toList_ofList, canonicalChars, List.append_assoc, List.length_append]
    exact Nat.le_add_right_of_le ends.2.2
  · intro c member
    simp only [canonicalName, String.toList_ofList, canonicalChars, stampField, List.mem_append,
      List.mem_cons] at member
    rcases member with
      (start | ((year | month) | day) | rfl | (hour | minute) | second) | extension
    · exact ends.1 c start
    · exact isSeparator_of_mem_year year
    · exact isSeparator_of_mem_padded month
    · exact isSeparator_of_mem_padded day
    · decide
    · exact isSeparator_of_mem_padded hour
    · exact isSeparator_of_mem_padded minute
    · exact isSeparator_of_mem_padded second
    · exact ends.2.1 c extension

/-- Parts put together consist of their characters, brackets and the extension of videos. -/
private theorem mem_of_mem_chars {parts : NameParts} {c : Char} (member : c ∈ parts.chars) :
    (c ∈ parts.base ∨ c ∈ parts.index.getD [] ∨ c ∈ parts.extension) ∨
      c ∈ ' ' :: '(' :: ')' :: videoExtension.toList := by
  -- the extension is the only part that may be replaced
  have extension : c ∈ (if parts.extension = legacyVideoExtension.toList then
      videoExtension.toList else parts.extension) →
      c ∈ parts.extension ∨ c ∈ videoExtension.toList := by
    split
    · exact Or.inr
    · exact Or.inl
  unfold NameParts.chars at member
  dsimp only at member
  split at member
  next digits index =>
    simp only [List.mem_append, List.mem_cons] at member
    rcases member with (inBase | blank | opened | inIndex) | closed | last
    · exact Or.inl (Or.inl inBase)
    · exact Or.inr (by simp [blank])
    · exact Or.inr (by simp [opened])
    · exact Or.inl (Or.inr (Or.inl (by simpa [index] using inIndex)))
    · exact Or.inr (by simp [closed])
    · rcases extension last with own | video
      · exact Or.inl (Or.inr (Or.inr own))
      · exact Or.inr (by simp only [List.mem_cons, video, or_true])
  · rcases List.mem_append.mp member with inBase | last
    · exact Or.inl (Or.inl inBase)
    · rcases extension last with own | video
      · exact Or.inl (Or.inr (Or.inr own))
      · exact Or.inr (by simp only [List.mem_cons, video, or_true])

private theorem length_chars (parts : NameParts) : parts.base.length ≤ parts.chars.length := by
  unfold NameParts.chars
  dsimp only
  split <;> simp only [List.length_append] <;> omega

/-- The canonical form of a valid name is valid. -/
theorem isValidName_regulateName {name : String} (valid : isValidName name = true) (zone : Zone) :
    isValidName (regulateName name zone) = true := by
  have same : String.ofList name.toList = name := String.ofList_toList
  unfold regulateName regulateChars
  split
  -- a name with a time stamp is put together from its parts
  · split
    next parts found =>
      obtain ⟨front, rest, whole, here⟩ := leftmost_eq_some found
      obtain ⟨length, inRest⟩ := mem_of_partsAt here
      apply isValidName_of_chars
      · rw [String.toList_ofList]
        have := length_chars parts
        omega
      · rw [String.toList_ofList]
        intro c member
        rcases mem_of_mem_chars member with own | added
        · refine isSeparator_of_mem valid ?_
          rw [whole]
          exact List.mem_append_right _ (inRest c own)
        · have plain : ∀ c ∈ ' ' :: '(' :: ')' :: videoExtension.toList,
              isSeparator c = false := isSeparator_of_all (by decide)
          exact plain c added
    · rwa [same]
  · split
    · exact isValidName_canonicalName _ _ _
    · rwa [same]

/-! ### Thumbnails -/

private theorem exists_dropWhile_append {p : Char → Bool} {front : List Char}
    (stops : ∃ c ∈ front, p c = false) (back : List Char) :
    ∃ c found, (front ++ back).dropWhile p = c :: (found ++ back) := by
  induction front with
  | nil =>
    obtain ⟨c, member, -⟩ := stops
    cases member
  | cons d front ih =>
    by_cases passes : p d = true
    · obtain ⟨c, member, fails⟩ := stops
      have later : c ∈ front := by
        rcases List.mem_cons.mp member with rfl | later
        · rw [passes] at fails
          cases fails
        · exact later
      simpa [passes] using ih ⟨c, later, fails⟩
    · exact ⟨d, front, by simp [passes]⟩

/-- The stem of a text keeps a start without dots. -/
theorem stem_append {start : List Char} (plain : '.' ∉ start) (name : List Char) :
    ∃ rest, stem (start ++ name) = start ++ rest := by
  unfold stem
  split
  next dot =>
    have later : '.' ∈ name := (List.mem_append.mp dot).resolve_left plain
    obtain ⟨c, found, split⟩ := exists_dropWhile_append (p := (· != '.'))
      ⟨'.', List.mem_reverse.mpr later, by decide⟩ start.reverse
    refine ⟨found.reverse, ?_⟩
    rw [List.reverse_append, split]
    simp
  · exact ⟨name, rfl⟩

/-- The name of a thumbnail is that of a thumbnail. -/
theorem isThumbnailName_thumbnailName (name : String) :
    isThumbnailName (thumbnailName name) = true := by
  have plain : '.' ∉ thumbnailStart.toList := by decide
  obtain ⟨rest, split⟩ := stem_append plain name.toList
  have start : thumbnailStart.toList.isPrefixOf (thumbnailChars name.toList) = true := by
    rw [thumbnailChars, split, List.append_assoc]
    exact List.isPrefixOf_iff_prefix.mpr (List.prefix_append _ _)
  -- the other starts differ from that of thumbnails at their first character
  have noImage : imageStart.toList.isPrefixOf (thumbnailChars name.toList) = false := by
    rw [thumbnailChars, split]
    rfl
  have noVideo : videoStart.toList.isPrefixOf (thumbnailChars name.toList) = false := by
    rw [thumbnailChars, split]
    rfl
  simp [isThumbnailName, kindOf, kindOfChars, thumbnailName, start, noImage, noVideo,
    NameKind.isThumbnail]

theorem mem_of_mem_stem {name : List Char} {c : Char} (member : c ∈ stem name) : c ∈ name := by
  unfold stem at member
  split at member
  · have dropped := List.mem_of_mem_drop (List.mem_reverse.mp member)
    exact List.mem_reverse.mp ((List.dropWhile_suffix _).subset dropped)
  · exact member

/-- The thumbnail of a picture with a valid name has one, too. -/
theorem isValidName_thumbnailName {name : String} (valid : isValidName name = true) :
    isValidName (thumbnailName name) = true := by
  apply isValidName_of_chars
  · rw [thumbnailName, String.toList_ofList, thumbnailChars, List.length_append]
    exact Nat.le_add_left_of_le (by decide)
  · intro c member
    rw [thumbnailName, String.toList_ofList, thumbnailChars, List.mem_append] at member
    rcases member with before | extension
    · rcases List.mem_append.mp (mem_of_mem_stem before) with start | own
      · exact isSeparator_of_all (by decide) c start
      · exact isSeparator_of_mem valid own
    · exact isSeparator_of_all (by decide) c extension

theorem isThumbnailName_iff (name : String) :
    isThumbnailName name = true ↔ kindOf name = .thumbnail := by
  rw [isThumbnailName]
  cases kindOf name <;> simp [NameKind.isThumbnail]

theorem isThumbnailName_iterate_nextName {name : String}
    (thumbnail : isThumbnailName name = true) (n : Nat) :
    isThumbnailName (nextName^[n] name) = true := by
  rw [isThumbnailName, kindOf_iterate_nextName]
  exact thumbnail

/-! ### Names made in several turns -/

theorem validateName_eq_ok_iff {name : String} :
    validateName name = .ok name ↔ isValidName name = true := by
  unfold validateName
  split <;> simp [*]

/-- What can be made of a name in any number of turns, in each of which the name at hand is
regulated in some zone, followed by the next one or made into that of a thumbnail. -/
inductive Derived (name : String) : String → Prop
  | same : Derived name name
  | regulated {made : String} (earlier : Derived name made) (zone : Zone) :
      Derived name (regulateName made zone)
  | next {made : String} (earlier : Derived name made) : Derived name (nextName made)
  | thumbnail {made : String} (earlier : Derived name made) : Derived name (thumbnailName made)

/-- All that can be made of a valid name is valid. -/
theorem Derived.isValidName {name made : String} (derived : Derived name made)
    (valid : isValidName name = true) : isValidName made = true := by
  induction derived with
  | same => exact valid
  | regulated _ zone ih => exact isValidName_regulateName ih zone
  | next _ ih => exact isValidName_nextName ih
  | thumbnail _ ih => exact isValidName_thumbnailName ih

end CameraRoll.Naming
