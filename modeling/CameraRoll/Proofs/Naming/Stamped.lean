import CameraRoll.Naming.Stamp
import CameraRoll.Proofs.Naming.Derived
import Mathlib.Data.List.Infix

/-!
Which names carry a time stamp. Main statements: `isStamped_iff`, that a stamp is found wherever one
stands, `stamped_append`, that none reaches across a blank or a dot, and `isStamped_nextName`, that
the name after a name carries a stamp if that name does.
-/

namespace CameraRoll.Naming

open CameraRoll.Text

/-- The characters of a time stamp: a `_` and eight digits, a `_` and six digits. -/
def IsStampText (text : List Char) : Prop :=
  ∃ date time, text = '_' :: date ++ '_' :: time ∧ date.length = 8 ∧ time.length = 6 ∧
    ∀ c ∈ date ++ time, isDigit c = true

/-- A time stamp stands somewhere in the text. -/
def Stamped (text : List Char) : Prop := ∃ stamp, IsStampText stamp ∧ stamp <:+: text

/-! ### Finding a stamp -/

/-- A stamp is found wherever one stands. -/
theorem isStamped_iff (name : String) : isStamped name = true ↔ Stamped name.toList := by
  rw [isStamped, findStamp, Option.isSome_iff_ne_none, Ne, leftmost_eq_none_iff]
  constructor
  · intro found
    push Not at found
    obtain ⟨front, rest, whole, found⟩ := found
    obtain ⟨stamp, found⟩ := Option.ne_none_iff_exists'.mp found
    obtain ⟨⟨date, time, behind⟩, found, -⟩ := Option.map_eq_some_iff.mp found
    obtain ⟨rfl, eight, six, number⟩ := stampDigits_eq_some_iff.mp found
    exact ⟨_, ⟨date, time, rfl, eight, six, number⟩, front, behind,
      by rw [whole, List.append_assoc]⟩
  · rintro ⟨_, ⟨date, time, rfl, eight, six, number⟩, front, behind, whole⟩ nowhere
    have here := nowhere front ('_' :: date ++ '_' :: time ++ behind)
      (by rw [← whole, List.append_assoc])
    rw [stampAt, stampDigits_eq_some_iff.mpr ⟨rfl, eight, six, number⟩] at here
    cases here

/-! ### Where a stamp stands -/

private theorem infix_append_cons {stamp front back : List Char} {c : Char} (foreign : c ∉ stamp) :
    stamp <:+: front ++ c :: back ↔ stamp <:+: front ∨ stamp <:+: back := by
  constructor
  · rintro ⟨before, after, whole⟩
    rw [List.append_assoc] at whole
    rcases List.append_eq_append_iff.mp whole with ⟨middle, same, rest⟩ | ⟨middle, same, rest⟩
    -- the stamp begins in the front, and cannot reach the character behind it
    · rcases List.append_eq_append_iff.mp rest with ⟨tail, inside, -⟩ | ⟨tail, inside, left⟩
      · exact .inl ⟨before, tail, by rw [same, inside, List.append_assoc]⟩
      · cases tail with
        | nil =>
          rw [List.append_nil] at inside
          exact .inl ⟨before, [], by rw [same, inside, List.append_nil]⟩
        | cons d tail =>
          obtain ⟨rfl, -⟩ := List.cons.inj left
          exact absurd (inside ▸ List.mem_append_right _ List.mem_cons_self) foreign
    -- or it begins behind the front
    · cases middle with
      | nil =>
        cases stamp with
        | nil => exact .inl (List.nil_infix)
        | cons d stamp =>
          obtain ⟨rfl, -⟩ := List.cons.inj rest
          exact absurd List.mem_cons_self foreign
      | cons d middle =>
        exact .inr ⟨middle, after, by simpa using (List.cons.inj rest).2.symm⟩
  · rintro (inFront | inBack)
    · exact inFront.trans (List.infix_append' [] front _)
    · exact inBack.trans ((List.suffix_cons c back).isInfix.trans
        (List.suffix_append front _).isInfix)

private theorem not_mem_stamp {stamp : List Char} (isStamp : IsStampText stamp) {c : Char}
    (other : isDigit c = false) (noUnderscore : c ≠ '_') : c ∉ stamp := by
  obtain ⟨date, time, rfl, -, -, number⟩ := isStamp
  intro member
  simp only [List.cons_append, List.mem_cons, List.mem_append, noUnderscore, false_or] at member
  have digit := number c (List.mem_append.mpr member)
  simp [other] at digit

/-- No stamp reaches across a character that is none of its own. -/
theorem stamped_append_cons {front back : List Char} {c : Char} (other : isDigit c = false)
    (noUnderscore : c ≠ '_') : Stamped (front ++ c :: back) ↔ Stamped front ∨ Stamped back := by
  constructor
  · rintro ⟨stamp, isStamp, inside⟩
    rcases (infix_append_cons (not_mem_stamp isStamp other noUnderscore)).mp inside with
      inFront | inBack
    · exact .inl ⟨stamp, isStamp, inFront⟩
    · exact .inr ⟨stamp, isStamp, inBack⟩
  · rintro (⟨stamp, isStamp, inFront⟩ | ⟨stamp, isStamp, inBack⟩)
    · exact ⟨stamp, isStamp,
        (infix_append_cons (not_mem_stamp isStamp other noUnderscore)).mpr (.inl inFront)⟩
    · exact ⟨stamp, isStamp,
        (infix_append_cons (not_mem_stamp isStamp other noUnderscore)).mpr (.inr inBack)⟩

/-- A stamp takes up two `_`. -/
theorem not_stamped_of_few {text : List Char} (few : text.count '_' ≤ 1) : ¬ Stamped text := by
  rintro ⟨stamp, ⟨date, time, rfl, -⟩, inside⟩
  have within := inside.sublist.count_le '_'
  simp only [List.cons_append, List.count_cons_self, List.count_append] at within
  omega

theorem not_stamped_of_plain {text : List Char} (plain : '_' ∉ text) : ¬ Stamped text :=
  not_stamped_of_few (by simp [List.count_eq_zero_of_not_mem plain])

/-- No stamp reaches across a blank or a dot. -/
theorem stamped_append {front rest : List Char} (gap : ∀ c ∈ rest.head?, c = ' ' ∨ c = '.') :
    Stamped (front ++ rest) ↔ Stamped front ∨ Stamped rest := by
  cases rest with
  | nil => simp [not_stamped_of_plain]
  | cons c rest =>
    have foreign : isDigit c = false ∧ c ≠ '_' := by
      rcases gap c rfl with rfl | rfl <;> decide
    have alone : Stamped ([] ++ c :: rest) ↔ _ := stamped_append_cons foreign.1 foreign.2
    rw [List.nil_append] at alone
    rw [stamped_append_cons foreign.1 foreign.2, alone]
    simp [not_stamped_of_plain]

private theorem isDigit_underscore : isDigit '_' = false := by decide

/-- The name after a name carries a stamp if that name does. -/
theorem isStamped_nextName (name : String) : isStamped (nextName name) = isStamped name := by
  obtain ⟨index, base, blank, bracketed⟩ := indexedBase_append (splitExtension name.toList).1
  have dot := head_splitExtension name.toList
  let front := (indexedBase (splitExtension name.toList).1).1
  let extension := (splitExtension name.toList).2
  -- both names are the same front and extension around an index without a stamp
  have around {gap : List Char} (blank : ∀ c ∈ gap.head?, c = ' ') (plain : '_' ∉ gap) :
      Stamped (front ++ (gap ++ extension)) ↔ Stamped front ∨ Stamped extension := by
    have first : ∀ c ∈ (gap ++ extension).head?, c = ' ' ∨ c = '.' := by
      intro c member
      cases gap with
      | nil => exact .inr (dot c member)
      | cons d gap => exact .inl (blank c member)
    rw [stamped_append first, stamped_append fun c member => .inr (dot c member)]
    simp [not_stamped_of_plain plain, extension]
  have old : name.toList = front ++ (index ++ extension) := by
    rw [← List.append_assoc, ← base, splitExtension_append]
  have new : (nextName name).toList =
      front ++ (' ' :: '(' :: numeral (indexAfter name.toList) ++ [')'] ++ extension) := by
    rw [toList_nextName, nextChars_eq]
    simp [indexed, front, extension]
  have plain : '_' ∉ index := by
    intro member
    have := bracketed '_' member
    simp [isDigit_underscore] at this
  rw [Bool.eq_iff_iff, isStamped_iff, isStamped_iff, old, new, around blank plain,
    around (by simp) (not_mem_bracketed isDigit_underscore (by decide) (by decide) (by decide))]

theorem isStamped_iterate_nextName (name : String) (n : Nat) :
    isStamped (nextName^[n] name) = isStamped name := by
  induction n with
  | zero => rfl
  | succ n ih => rw [Function.iterate_succ_apply', isStamped_nextName, ih]

end CameraRoll.Naming
