import CameraRoll.Proofs.Naming.Duplicates
import CameraRoll.Proofs.Naming.Moved

/-!
Regulating a name that was regulated already. Main statements: `regulateChars_canonicalChars`, that
canonical names of all years stay as they are, and `regulateName_again_iff`, which names are left
alone by a second turn.
-/

namespace CameraRoll.Naming

open CameraRoll.Calendar CameraRoll.Text

/-! ### Where a base can stand -/

/-- A base consists of word characters and digits, the `_` before its date among them. -/
private theorem mem_of_baseAt {s base rest : List Char} (found : baseAt s = some (base, rest)) :
    '_' ∈ base ∧ ∀ c ∈ base, isWord c = true ∨ isDigit c = true := by
  obtain ⟨x, y, z, behind, date, time, rfl, words, stamp, rfl⟩ := exists_of_baseAt found
  refine ⟨by simp, ?_⟩
  have underscore : isWord '_' = true := by decide
  obtain ⟨-, -, -, number⟩ := stampDigits_eq_some_iff.mp stamp
  simp only [Bool.and_eq_true] at words
  intro c member
  simp only [List.cons_append, List.nil_append, List.mem_cons, List.mem_append] at member number
  rcases member with rfl | rfl | rfl | rfl | inDate | rfl | inTime
  · exact .inl words.1.1
  · exact .inl words.1.2
  · exact .inl words.2
  · exact .inl underscore
  · exact .inr (number c (.inl inDate))
  · exact .inl underscore
  · exact .inr (number c (.inr inTime))

/-- A character that no base holds. -/
def IsGap (c : Char) : Prop := isWord c = false ∧ isDigit c = false

private theorem isGap_blank : IsGap ' ' := by
  constructor <;> decide

private theorem isGap_opened : IsGap '(' := by
  constructor <;> decide

private theorem isGap_closed : IsGap ')' := by
  constructor <;> decide

/-- A base ends before the first gap. -/
theorem prefix_of_baseAt {front rest base left : List Char} {c : Char} (gap : IsGap c)
    (found : baseAt (front ++ c :: rest) = some (base, left)) : base <+: front := by
  have absent : c ∉ base := by
    intro member
    rcases (mem_of_baseAt found).2 c member with word | digit
    · simp [gap.1] at word
    · simp [gap.2] at digit
  have whole := (eq_of_baseAt found).1
  rcases List.append_eq_append_iff.mp whole with ⟨middle, rfl, behind⟩ | ⟨middle, rfl, -⟩
  · cases middle with
    | nil => simp
    | cons d middle =>
      obtain ⟨rfl, -⟩ := List.cons.inj behind
      exact absurd (List.mem_append_right _ List.mem_cons_self) absent
  · exact List.prefix_append base middle

private theorem partsAt_of_baseAt {s : List Char} (nowhere : baseAt s = none) :
    partsAt s = none := by
  simp [partsAt, nowhere]

/-- The scheme is not found in digits before a gap, since every base holds a `_`. -/
theorem partsAt_digits {digits : List Char} (number : ∀ c ∈ digits, isDigit c = true) {c : Char}
    (gap : IsGap c) (rest : List Char) : partsAt (digits ++ c :: rest) = none := by
  cases found : baseAt (digits ++ c :: rest) with
  | none => exact partsAt_of_baseAt found
  | some pair =>
    have underscore := (mem_of_baseAt found).1
    have digit := number '_' ((prefix_of_baseAt gap found).subset underscore)
    have noDigit : isDigit '_' = false := by decide
    simp [noDigit] at digit

theorem partsAt_gap {c : Char} (gap : IsGap c) (rest : List Char) :
    partsAt (c :: rest) = none := by
  have empty : ∀ d ∈ ([] : List Char), isDigit d = true := fun _ member => by cases member
  exact partsAt_digits empty gap rest

/-! ### Looking for the scheme behind an index -/

/-- With an index in brackets behind it, a base is no start of the scheme, which is left to be found
in the extension. -/
theorem leftmost_partsAt_indexed {s base rest digits : List Char}
    (start : baseAt s = some (base, rest)) (number : ∀ c ∈ digits, isDigit c = true)
    (extension : List Char) :
    leftmost partsAt (base ++ ' ' :: '(' :: digits ++ ')' :: extension) =
      leftmost partsAt extension := by
  have whole : base ++ ' ' :: '(' :: digits ++ ')' :: extension =
      base ++ ([' ', '('] ++ (digits ++ ([')'] ++ extension))) := by simp
  have length := (eq_of_baseAt start).2
  rw [whole, leftmost_append, leftmost_append, leftmost_append, leftmost_append]
  -- from back to front: the closing bracket, the digits, the opening bracket and the base
  · intro c back inside
    obtain ⟨rfl, rfl⟩ : c = ')' ∧ back = [] := by simpa [List.suffix_cons_iff] using inside
    exact partsAt_gap isGap_closed _
  · intro c back inside
    exact partsAt_digits (fun d member => number d (inside.subset member)) isGap_closed extension
  · intro c back inside
    have bracket : c :: back = [' ', '('] ∨ c :: back = ['('] := by
      simpa [List.suffix_cons_iff] using inside
    rcases bracket with same | same
    · rw [same]
      exact partsAt_gap isGap_blank _
    · rw [same]
      exact partsAt_gap isGap_opened _
  · intro c back inside
    cases found : baseAt (c :: back ++ ([' ', '('] ++ (digits ++ ([')'] ++ extension)))) with
    | none => exact partsAt_of_baseAt found
    | some pair =>
      obtain ⟨first, behind⟩ := pair
      -- a base before the blank takes up all the characters that there are
      have before := prefix_of_baseAt isGap_blank found
      have long := (eq_of_baseAt found).2
      have all : c :: back = base := by
        refine inside.eq_of_length_le ?_
        have := before.length_le
        omega
      have here := (eq_of_baseAt found).1
      rw [all] at here
      obtain ⟨rfl, rfl⟩ := List.append_inj here (length.trans long.symm)
      -- and a blank behind it is neither an extension nor an index of the scheme
      unfold partsAt
      rw [found]
      rfl

/-! ### Parts put together -/

theorem currentExtension_ne (extension : List Char) :
    currentExtension extension ≠ legacyVideoExtension.toList := by
  unfold currentExtension
  split
  · decide
  · assumption

theorem currentExtension_idem (extension : List Char) :
    currentExtension (currentExtension extension) = currentExtension extension :=
  if_neg (currentExtension_ne extension)

theorem isExtension_currentExtension {extension : List Char}
    (accepted : isExtension extension = true) : isExtension (currentExtension extension) = true := by
  unfold currentExtension
  split
  · decide
  · exact accepted

theorem length_currentExtension_le (extension : List Char) :
    (currentExtension extension).length ≤ extension.length := by
  unfold currentExtension
  split
  next same =>
    rw [same]
    decide
  · exact Nat.le_refl _

/-- The scheme is found in the extension of a video under neither of its names. -/
theorem leftmost_partsAt_currentExtension (extension : List Char) :
    leftmost partsAt (currentExtension extension) = leftmost partsAt extension := by
  unfold currentExtension
  split
  next same =>
    rw [same]
    decide
  · rfl

/-- Brackets in place of a `_` make a name longer by two characters at most. -/
theorem length_chars_le {s : List Char} {parts : NameParts} (found : partsAt s = some parts) :
    parts.chars.length ≤ s.length + 2 := by
  obtain ⟨rest, start, -, pieces⟩ := exists_of_partsAt found
  obtain ⟨rfl, -⟩ := eq_of_baseAt start
  have shorter := length_currentExtension_le parts.extension
  rcases pieces with ⟨unindexed, rfl⟩ | ⟨digits, indexed, -, -, rfl⟩
  · rw [NameParts.chars_of_none unindexed, List.length_append, List.length_append]
    omega
  · rw [NameParts.chars_of_some indexed]
    simp only [List.length_append, List.length_cons]
    omega

theorem isPrimary_iff_take (s : List Char) : (kindOfChars s).isPrimary = true ↔
    s.take 4 = imageStart.toList ∨ s.take 4 = videoStart.toList := by
  rw [← kindOfChars_eq_image_iff, ← kindOfChars_eq_video_iff]
  cases kindOfChars s <;> simp [NameKind.isPrimary]

theorem isPrimary_chars {parts : NameParts} (length : parts.base.length = 19) :
    (kindOfChars parts.chars).isPrimary = (kindOfChars parts.base).isPrimary := by
  obtain ⟨rest, whole⟩ := chars_eq_append parts
  rw [Bool.eq_iff_iff, isPrimary_iff_take, isPrimary_iff_take, whole,
    List.take_append_of_le_length (by omega)]

/-! ### Canonical names -/

theorem inRange_namingClock {instant : Instant} (inRange : (instant.wallClock 0).inRange = true)
    (zone : Zone) : (namingClock instant zone).inRange = true := by
  unfold namingClock
  dsimp only
  split
  · assumption
  · exact inRange

/-- A canonical name stays as it is, also one of a year that is written with a sign. -/
theorem regulateChars_canonicalChars (kind : MediaKind) {instant : Instant}
    (inRange : (instant.wallClock 0).inRange = true) (zone other : Zone) :
    regulateChars (canonicalChars kind instant zone) other = canonicalChars kind instant zone := by
  obtain ⟨-, last⟩ := WallClock.years_of_inRange _ (inRange_namingClock inRange zone)
  obtain ⟨plain, current, -⟩ := extensionOf_plain kind
  rcases Int.lt_or_le (namingClock instant zone).date.year 0 with past | first
  -- the sign leaves no stamp by which the scheme could be found
  · have unstamped := isStamped_canonicalName_past kind past
    rw [isStamped, canonicalName, String.toList_ofList, Option.isSome_eq_false_iff,
      Option.isNone_iff_eq_none] at unstamped
    rw [regulateChars, leftmost_partsAt_of_unstamped unstamped]
    have primary : (kindOfChars (canonicalChars kind instant zone)).isPrimary = true := by
      rw [canonicalChars, List.append_assoc, kindOfChars_append]
      cases kind <;> rfl
    rw [if_pos primary]
  · exact regulateChars_written ⟨first, last⟩ kind plain current other

theorem inRange_of_legacyInstant {name : List Char} {instant : Instant}
    (read : legacyInstant name = some instant) : (instant.wallClock 0).inRange = true := by
  unfold legacyInstant at read
  obtain ⟨digits, -, read⟩ := Option.bind_eq_some_iff.mp read
  obtain ⟨millis, -, read⟩ := Option.bind_eq_some_iff.mp read
  dsimp only at read
  split at read
  next inRange =>
    cases read
    exact inRange
  · cases read

/-! ### The second turn -/

/-- Parts rest once they are put together: what they make is named like a picture, and the scheme is
not found behind their index; or it is not, and carries no number of the oldest scheme. -/
def NameParts.Rests (parts : NameParts) : Prop :=
  if (kindOfChars parts.base).isPrimary then
    parts.index = none ∨ leftmost partsAt parts.extension = none
  else legacyInstant parts.chars = none

instance (parts : NameParts) : Decidable parts.Rests :=
  inferInstanceAs (Decidable (if (kindOfChars parts.base).isPrimary then _ else _))

theorem baseAt_append {s base rest : List Char} (start : baseAt s = some (base, rest))
    (other : List Char) : baseAt (base ++ other) = some (base, other) := by
  obtain ⟨a, b, c, behind, date, time, -, words, stamp, rfl⟩ := exists_of_baseAt start
  obtain ⟨-, digits⟩ := stampDigits_eq_some_iff.mp stamp
  have again : stampDigits ('_' :: date ++ '_' :: time ++ other) = some (date, time, other) :=
    stampDigits_eq_some_iff.mpr ⟨rfl, digits⟩
  simp only [List.cons_append, List.append_assoc] at again
  simp [baseAt, words, again]

/-- What was put together without an index is taken apart in the same way. -/
theorem partsAt_chars_of_none {s : List Char} {parts : NameParts}
    (found : partsAt s = some parts) (unindexed : parts.index = none) :
    partsAt parts.chars = some ⟨parts.base, none, currentExtension parts.extension⟩ := by
  obtain ⟨rest, start, accepted, -⟩ := exists_of_partsAt found
  rw [NameParts.chars_of_none unindexed, partsAt, baseAt_append start]
  simp [isExtension_currentExtension accepted]

theorem regulateChars_chars_iff {s : List Char} {parts : NameParts}
    (found : partsAt s = some parts) (zone : Zone) :
    regulateChars parts.chars zone = parts.chars ↔ parts.Rests := by
  obtain ⟨rest, start, -, pieces⟩ := exists_of_partsAt found
  have kind := isPrimary_chars (eq_of_baseAt start).2
  rw [regulateChars, NameParts.Rests, kind]
  cases primary : (kindOfChars parts.base).isPrimary with
  | true =>
    simp only [if_true]
    rcases pieces with ⟨unindexed, -⟩ | ⟨digits, indexed, -, number, -⟩
    -- without an index the same parts are found at the front
    · have again := partsAt_chars_of_none found unindexed
      rw [leftmost_of_some again]
      simp only [unindexed, true_or, iff_true]
      rw [NameParts.chars_of_none rfl, NameParts.chars_of_none unindexed, currentExtension_idem]
    -- behind an index other parts may be found, which make a shorter name
    · have search : leftmost partsAt parts.chars =
          leftmost partsAt (currentExtension parts.extension) := by
        rw [NameParts.chars_of_some indexed, leftmost_partsAt_indexed start number]
      rw [search, ← leftmost_partsAt_currentExtension parts.extension]
      cases later : leftmost partsAt (currentExtension parts.extension) with
      | none => simp
      | some others =>
        simp only [indexed, reduceCtorEq, or_self, iff_false]
        intro same
        obtain ⟨before, behind, whole, here⟩ := leftmost_eq_some later
        have short := length_chars_le here
        have length := (eq_of_baseAt start).2
        rw [same, NameParts.chars_of_some indexed, whole] at short
        simp only [List.length_append, List.length_cons] at short
        omega
  -- a base without the start of a picture is left to the oldest scheme
  | false =>
    simp only [Bool.false_eq_true, if_false]
    cases read : legacyInstant parts.chars with
    | none => simp
    | some instant =>
      -- a name of the oldest scheme gets the start of images, and so becomes another one
      simp only [reduceCtorEq, iff_false]
      intro same
      have image : (kindOfChars (canonicalChars .image instant zone)).isPrimary = true := by
        rw [canonicalChars, List.append_assoc, kindOfChars_append]
        rfl
      rw [same, kind, primary] at image
      cases image

/-- The parts found in a name of a picture rest once they are put together. -/
def ComesToRest (name : List Char) : Prop :=
  (kindOfChars name).isPrimary = true → ∀ parts ∈ leftmost partsAt name, parts.Rests

instance (name : List Char) : Decidable (ComesToRest name) :=
  inferInstanceAs (Decidable (_ → ∀ parts ∈ leftmost partsAt name, parts.Rests))

theorem regulateChars_again_iff (name : List Char) (zone other : Zone) :
    regulateChars (regulateChars name zone) other = regulateChars name zone ↔
      ComesToRest name := by
  rw [ComesToRest]
  cases primary : (kindOfChars name).isPrimary with
  | true =>
    simp only [forall_const]
    cases found : leftmost partsAt name with
    | none =>
      have same (zone : Zone) : regulateChars name zone = name := by
        rw [regulateChars, if_pos primary, found]
      simp [same]
    | some parts =>
      obtain ⟨-, rest, -, here⟩ := leftmost_eq_some found
      rw [regulateChars, regulateChars, if_pos primary, found]
      simpa [regulateChars] using regulateChars_chars_iff here other
  -- of the other names those of the oldest scheme become canonical ones
  | false =>
    simp only [Bool.false_eq_true, false_implies, iff_true]
    cases read : legacyInstant name with
    | none =>
      have same (zone : Zone) : regulateChars name zone = name := by
        simp [regulateChars, primary, read]
      simp [same]
    | some instant =>
      have canonical : regulateChars name zone = canonicalChars .image instant zone := by
        simp [regulateChars, primary, read]
      rw [canonical]
      exact regulateChars_canonicalChars .image (inRange_of_legacyInstant read) zone other

/-- A regulated name is left alone by another turn, in whatever zone, exactly if it came to rest.
It then has the same capture time as the name it was made from. -/
theorem regulateName_again_iff (name : String) (zone : Zone) :
    (∀ other, regulateName (regulateName name zone) other = regulateName name zone ↔
      ComesToRest name.toList) ∧
    (ComesToRest name.toList →
      captureTime (regulateName name zone) zone = captureTime name zone) := by
  constructor
  · intro other
    rw [← regulateChars_again_iff name.toList zone other, regulateName, regulateName,
      String.ofList_inj, String.toList_ofList]
  · intro rests
    have again := (regulateChars_again_iff name.toList zone zone).mpr rests
    rw [captureTime, captureTime, regulateName, String.toList_ofList, captureTimeOfChars, again,
      ← captureTimeOfChars]

/-- An index and an extension of the older scheme are replaced in one turn. -/
theorem regulateName_again_olderIndex :
    ComesToRest "VID_20240101_120000_2.webm".toList ∧
    regulateName "VID_20240101_120000 (2).mkv" (.fixed 3600) = "VID_20240101_120000 (2).mkv" ∧
    captureTime "VID_20240101_120000 (2).mkv" .system =
      captureTime "VID_20240101_120000_2.webm" .system := by
  have rests : ComesToRest "VID_20240101_120000_2.webm".toList := by decide +kernel
  have moved : regulateName "VID_20240101_120000_2.webm" .system =
      "VID_20240101_120000 (2).mkv" := by decide +kernel
  obtain ⟨settled, dated⟩ := regulateName_again_iff "VID_20240101_120000_2.webm" .system
  rw [moved] at settled dated
  exact ⟨rests, (settled _).mpr rests, dated rests⟩

/-- Two images that a second turn renames again: the one lost the start of its name and passes for
one of the oldest scheme, the other one holds two stamps, of which each turn picks another, so that
the time it is dated to changes, too. -/
theorem regulateName_again_renamed :
    (regulateName "IMG_abc_20240101_120000.jpg" (.fixed 0) = "abc_20240101_120000.jpg" ∧
      regulateName "abc_20240101_120000.jpg" (.fixed 0) = "IMG_19700101_053720.jpg") ∧
    (regulateName "IMG_20240101_120000_2.abc_20230101_120000.jpg" (.fixed 0) =
        "IMG_20240101_120000 (2).abc_20230101_120000.jpg" ∧
      regulateName "IMG_20240101_120000 (2).abc_20230101_120000.jpg" (.fixed 0) =
        "abc_20230101_120000.jpg" ∧
      captureTime "IMG_20240101_120000 (2).abc_20230101_120000.jpg" (.fixed 0) ≠
        captureTime "IMG_20240101_120000_2.abc_20230101_120000.jpg" (.fixed 0)) := by
  refine ⟨⟨?_, ?_⟩, ?_, ?_, ?_⟩ <;> decide +kernel

end CameraRoll.Naming
