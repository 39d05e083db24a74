import CameraRoll.Proofs.Naming.RoundTrip
import Mathlib.Data.List.Perm.Subperm
import Mathlib.Data.List.Range

/-!
The names that are tried for a new picture when its canonical name is taken. Main statements:
`iterate_named_inj`, that they are told apart, `le_length_of_taken`, that no more of them are taken
than there are files, and `captureTime_iterate_named`, that each is dated by its index.
-/

namespace CameraRoll.Naming

open CameraRoll.Calendar CameraRoll.Text

/-- The canonical name itself, or its base with an index before the extension. -/
def duplicateChars (kind : MediaKind) (wall : WallClock) : Nat → List Char
  | 0 => writtenBase kind wall ++ (extensionOf kind).toList
  | n + 1 => indexed (writtenBase kind wall) (n + 1) (extensionOf kind).toList

theorem duplicateChars_eq (kind : MediaKind) (wall : WallClock) (n : Nat) :
    duplicateChars kind wall n =
      writtenBase kind wall ++ countedIndex n ++ (extensionOf kind).toList := by
  cases n with
  | zero => simp [duplicateChars, countedIndex]
  | succ n => rw [duplicateChars, indexed_eq_countedIndex]

theorem duplicateChars_inj {kind : MediaKind} {wall : WallClock} {n k : Nat}
    (same : duplicateChars kind wall n = duplicateChars kind wall k) : n = k := by
  rw [duplicateChars_eq, duplicateChars_eq] at same
  exact countedIndex_inj (List.append_cancel_left (List.append_cancel_right same))

theorem isPlainExtension_extensionOf (kind : MediaKind) :
    IsPlainExtension (extensionOf kind).toList := by
  cases kind <;> decide

section Named

variable {kind : MediaKind} {instant : Instant} {zone : Zone}
  (years : InFourDigitYears (namingClock instant zone))
include years

theorem toList_iterate_named {n : Nat} (small : n ≤ maxWord64) :
    (nextName^[n] (canonicalName kind instant zone)).toList =
      duplicateChars kind (namingClock instant zone) n := by
  rw [toList_iterate_nextName, canonicalName, String.toList_ofList, canonicalChars,
    duplicateChars_eq, writtenBase_eq]
  exact iterate_nextChars_dated (stampDigits_written years) kind (isPlainExtension_extensionOf kind)
    small

/-- Names with different indices are different. -/
theorem iterate_named_inj {n k : Nat} (small : n ≤ maxWord64) (small' : k ≤ maxWord64)
    (same : nextName^[n] (canonicalName kind instant zone) =
      nextName^[k] (canonicalName kind instant zone)) : n = k := by
  rw [← String.toList_inj, toList_iterate_named years small,
    toList_iterate_named years small'] at same
  exact duplicateChars_inj same

/-- A name with an index is dated by it: so many milliseconds after the canonical name. -/
theorem captureTime_iterate_named {n : Nat} (small : n ≤ maxSigned64) :
    captureTime (nextName^[n] (canonicalName kind instant zone)) zone =
      let wall : WallClock := ⟨(namingClock instant zone).nanos / second * second⟩
      if (wall.later n).inRange then some ⟨wall.later n, zone.offsetOf wall⟩ else none := by
  have fits : n ≤ maxWord64 := small.trans (by decide)
  rw [captureTime, toList_iterate_named years fits, duplicateChars_eq, writtenBase_eq,
    captureTimeOfChars_indexText (stampDigits_written years) kind (isIndexText_countedIndex n)
      (isPlainExtension_extensionOf kind), wallClock_written years]
  dsimp only
  rw [countedMillis, if_pos small]

/-- If all names before one are among some names, that one's index is at most their number. -/
theorem le_length_of_taken {names : List String} (room : names.length < maxWord64) {n : Nat}
    (taken : ∀ k < n, nextName^[k] (canonicalName kind instant zone) ∈ names) :
    n ≤ names.length := by
  by_contra more
  -- so many names and one more would be told apart and still fit among them
  have apart : ((List.range (names.length + 1)).map
      fun k => nextName^[k] (canonicalName kind instant zone)).Nodup := by
    refine List.Nodup.map_on (fun k member k' member' same => ?_) List.nodup_range
    rw [List.mem_range] at member member'
    exact iterate_named_inj years (by omega) (by omega) same
  have fit := (List.subperm_of_subset apart fun name member => by
    obtain ⟨k, few, rfl⟩ := List.mem_map.mp member
    rw [List.mem_range] at few
    exact taken k (by omega)).length_le
  rw [List.length_map, List.length_range] at fit
  omega

end Named

/-! ### Years before the year 0 -/

/-- A name from before the year 0 carries no stamp: the sign of the year stands in its way. -/
theorem isStamped_canonicalName_past (kind : MediaKind) {instant : Instant} {zone : Zone}
    (past : (namingClock instant zone).date.year < 0) :
    isStamped (canonicalName kind instant zone) = false := by
  have digits (width n : Nat) : (paddedNumeral width n).count '_' = 0 := by
    refine List.count_eq_zero_of_not_mem fun member => ?_
    exact absurd (isAsciiDigit_of_mem_paddedNumeral member) (by decide)
  rw [Bool.eq_false_iff, Ne, isStamped_iff, canonicalName, String.toList_ofList, canonicalChars,
    stampField, yearField, if_pos past]
  simp only [List.cons_append, List.append_assoc]
  -- the sign parts the two `_` of the name
  rw [stamped_append_cons (by decide) (by decide)]
  rintro (inStart | inRest)
  · exact not_stamped_of_few (by cases kind <;> decide) inStart
  · refine not_stamped_of_few ?_ inRest
    have extension : ((extensionOf kind).toList).count '_' = 0 := by cases kind <;> decide
    simp [List.count_append, digits, extension]

/-- The scheme of a picture's name is found by its stamp. -/
theorem leftmost_partsAt_of_unstamped {name : List Char}
    (unstamped : leftmost stampAt name = none) : leftmost partsAt name = none := by
  refine (leftmost_eq_none_iff _ _).mpr fun front rest split => ?_
  suffices baseless : baseAt rest = none by simp [partsAt, baseless]
  unfold baseAt
  split
  next a b c s =>
    split
    · have here := (leftmost_eq_none_iff _ _).mp unstamped (front ++ [a, b, c]) s (by simp [split])
      simpa [stampAt] using here
    · rfl
  · rfl

/-- A name that starts like a picture's and carries no stamp is dated to the epoch. -/
theorem captureTime_of_unstamped {name : String} (primary : (kindOf name).isPrimary = true)
    (unstamped : isStamped name = false) (zone : Zone) :
    captureTime name zone = some .epoch := by
  have nowhere : findStamp name.toList = none := by
    simpa [isStamped] using unstamped
  rw [captureTime, captureTimeOfChars, regulateChars, ← kindOf, if_pos primary,
    leftmost_partsAt_of_unstamped nowhere]
  dsimp only
  rw [nowhere]

/-- Before the year 9000, fewer than two million million duplicates do not lead out of the
calendar. -/
theorem exists_captureTime_iterate (kind : MediaKind) {instant : Instant} {zone : Zone}
    (early : (namingClock instant zone).date.year < 9000) {n : Nat}
    (few : 0 ≤ (namingClock instant zone).date.year → n < 2 * 10 ^ 12) :
    ∃ time, captureTime (nextName^[n] (canonicalName kind instant zone)) zone = some time := by
  by_cases past : (namingClock instant zone).date.year < 0
  -- without a stamp, the index does not count
  · refine ⟨.epoch, captureTime_of_unstamped ?_ ?_ zone⟩
    · rw [kindOf_iterate_canonicalName]
      cases kind <;> rfl
    · rw [isStamped_iterate_nextName, isStamped_canonicalName_past kind past]
  · have years : 0 ≤ (namingClock instant zone).date.year ∧
        (namingClock instant zone).date.year ≤ 8999 := ⟨by omega, by omega⟩
    have bounds := WallClock.nanos_of_years _ years
    have small : n ≤ maxSigned64 := (few years.1).le.trans (by decide)
    have few := few years.1
    refine ⟨_, (captureTime_iterate_named ⟨years.1, by omega⟩ small).trans (if_pos ?_)⟩
    rw [WallClock.inRange_iff, WallClock.later]
    simp only [yearStart, dayLength, second] at *
    omega

end CameraRoll.Naming
