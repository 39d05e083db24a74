import CameraRoll.Proofs.Catalog.Agreement

/-!
Names without a time, and what they do to a catalog. Main statements: `captureTime_eq_none_iff`, that
only a duplicate index that leads past the end of the calendar leaves a name without a time, and
`load_fails_iff_overruns`, that one such name makes the load of a whole catalog fail, and nothing
else does where the codec answers.
-/

namespace CameraRoll

open CameraRoll.Calendar CameraRoll.Text

/-! ### Names without a time -/

namespace Naming

variable {name : String} {zone : Zone}

/-- The stamp of the regulated name is within the calendar, but its duplicate index, counted as
milliseconds, leads past the last year. -/
def Overruns (name : String) (zone : Zone) : Prop :=
  ∃ stamp wall digits millis, findStamp (regulateName name zone).toList = some stamp ∧
    stamp.wallClock = some wall ∧ stamp.index = some digits ∧
    readNumeral digits = some millis ∧ millis ≤ maxSigned64 ∧
    yearStart 10000 * dayLength ≤ wall.nanos + millis * 1000000

theorem inRange_of_wallClock {stamp : Stamp} {wall : WallClock}
    (read : stamp.wallClock = some wall) : wall.inRange = true := by
  unfold Stamp.wallClock at read
  obtain ⟨fields, -, read⟩ := Option.bind_eq_some_iff.mp read
  split at read
  next within =>
    cases read
    exact (Bool.and_eq_true _ _ ▸ within).2
  · cases read

/-- An index adds something exactly if it can be read. -/
theorem duplicateMillis_eq_iff {stamp : Stamp} {millis : Nat} (positive : 0 < millis) :
    stamp.duplicateMillis = millis ↔ ∃ digits, stamp.index = some digits ∧
      readNumeral digits = some millis ∧ millis ≤ maxSigned64 := by
  unfold Stamp.duplicateMillis
  constructor
  · intro counted
    cases read : stamp.index.bind (readNumeralUpTo maxSigned64) with
    | none =>
      rw [read] at counted
      exact absurd counted positive.ne
    | some index =>
      obtain rfl : index = millis := by rwa [read] at counted
      obtain ⟨digits, indexed, read⟩ := Option.bind_eq_some_iff.mp read
      obtain ⟨read, small⟩ := Option.filter_eq_some_iff.mp read
      exact ⟨digits, indexed, read, by simpa using small⟩
  · rintro ⟨digits, indexed, read, small⟩
    simp [readNumeralUpTo, indexed, read, Option.filter_some, small]

/-- Only a duplicate index that leads past the end of the calendar leaves a name without a time. -/
theorem captureTime_eq_none_iff : captureTime name zone = none ↔ Overruns name zone := by
  rw [Overruns, regulateName, String.toList_ofList, captureTime, captureTimeOfChars]
  cases findStamp (regulateChars name.toList zone) with
  | none => simp
  | some stamp =>
    cases read : stamp.wallClock with
    | none => simp [read]
    | some wall =>
      have within := wall.inRange_iff.mp (inRange_of_wallClock read)
      simp only [read, Option.some.injEq, exists_and_left, exists_eq_left']
      constructor
      · intro unknown
        split at unknown
        · cases unknown
        next out =>
          -- the sum is out of the calendar, and since the stamp is not, it is so by its index
          rw [WallClock.inRange_iff, not_and] at out
          have late := out (by dsimp only; omega)
          have positive : 0 < stamp.duplicateMillis := by
            dsimp only at late
            omega
          obtain ⟨digits, indexed, number, small⟩ := (duplicateMillis_eq_iff positive).mp rfl
          exact ⟨digits, indexed, _, number, small, Int.not_lt.mp late⟩
      · rintro ⟨digits, indexed, millis, number, small, late⟩
        have positive : 0 < millis := by omega
        rw [(duplicateMillis_eq_iff positive).mpr ⟨digits, indexed, number, small⟩, if_neg]
        rw [WallClock.inRange_iff]
        intro inside
        exact absurd inside.2 (Int.not_lt.mpr late)

end Naming

/-! ### The load of a catalog -/

open Bench Library Naming

/-- A first load is done if the list is made, and else fails in one way. -/
theorem load_cases {W : Type} (library : Library (StateM W)) {catalog : Catalog}
    (unloaded : catalog.listing = .unloaded) (w : W) :
    (∃ pictures, (performed library.list catalog w).1.1 = .ok pictures ∧
      (performed library.load catalog w).1.1 = .ok ()) ∨
    ((performed library.list catalog w).1.1 = .error .loadFailed ∧
      (performed library.load catalog w).1.1 = .error .loadFailed) := by
  rw [load, performed_bind, performed_list, unloaded]
  dsimp only
  rcases outcome library.loadPictures w with ⟨_ | pictures, after⟩
  · exact .inr ⟨rfl, rfl⟩
  · exact .inl ⟨pictures, rfl, rfl⟩

/-- A catalog cannot be loaded exactly if a primary file has no time. -/
theorem load_fails_iff {resolver : Resolver (StateM Bench)} {bench : Bench}
    (serves : Serves resolver) (regular : bench.Regular) {codec : Codec} {width : Nat}
    (answers : (Bench.library resolver codec width).Answers) {catalog : Catalog}
    (unloaded : catalog.listing = .unloaded) :
    (performed (Bench.library resolver codec width).load catalog bench).1.1 = .error .loadFailed ↔
      ∃ file ∈ resolver.primaries bench, captureTime file.name resolver.zone = none := by
  obtain ⟨-, made⟩ := list_unloaded serves regular codec width unloaded
  rcases load_cases (Bench.library resolver codec width) unloaded bench with
    ⟨pictures, listed, done⟩ | ⟨unlisted, failed⟩
  · rw [listed] at made
    obtain ⟨same, handles⟩ := made
    rw [done]
    refine iff_of_false (fun failed => by cases failed) ?_
    -- the list has every primary file, with the time of its name
    rintro ⟨file, member, unknown⟩
    obtain ⟨picture, listed, rfl⟩ := List.mem_map.mp (same.mem_iff.mpr member)
    cases unknown.symm.trans (handles picture listed).time
  · rw [unlisted] at made
    exact iff_of_true failed (made answers)

/-- A name has a time unless its duplicate index leads past the end of the calendar. One primary
file of such a name makes the load of the catalog fail. Otherwise it is loaded, if the codec
answers. -/
theorem load_fails_iff_overruns (around : Surroundings) (quota : Nat) (zone : Zone) {bench : Bench}
    (regular : bench.Regular) :
    (∀ name, captureTime name zone = none ↔ Overruns name zone) ∧
    ∃ entries, outcome (session around quota zone).entries bench = (.ok entries, bench) ∧
      ∀ (codec : Codec) (width : Nat),
        (Bench.library (session around quota zone) codec width).Answers →
        ∀ catalog : Catalog, catalog.listing = .unloaded →
          let run := performed (Bench.library (session around quota zone) codec width).load
            catalog bench
          (run.1.1 = .error .loadFailed ↔ ∃ file ∈ entries.pictures, Overruns file.name zone) ∧
          (run.1.1 = .ok () ↔ ∀ file ∈ entries.pictures, ¬Overruns file.name zone) := by
  have serves := serves_session around quota zone
  refine ⟨fun name => captureTime_eq_none_iff, _, Resolver.outcome_entries serves regular, ?_⟩
  intro codec width answers catalog unloaded run
  have fails : run.1.1 = .error .loadFailed ↔
      ∃ file ∈ (session around quota zone).primaries bench, Overruns file.name zone := by
    rw [load_fails_iff serves regular answers unloaded]
    simp only [captureTime_eq_none_iff]
    rfl
  refine ⟨fails, ?_⟩
  have loads : run.1.1 = .ok () ↔ run.1.1 ≠ .error .loadFailed := by
    rcases load_cases (Bench.library (session around quota zone) codec width) unloaded bench with
      ⟨pictures, -, done⟩ | ⟨-, failed⟩
    · rw [show run.1.1 = .ok () from done]
      simp
    · rw [show run.1.1 = .error .loadFailed from failed]
      simp
  rw [loads, Ne, fails]
  simp

/-- One second before the end of the last year, an index of three digits leaves a time, and one of
four digits does not. -/
theorem load_fails_iff_overruns_thousandth :
    captureTime "IMG_99991231_235959 (999).jpg" (.fixed 0) ≠ none ∧
    Overruns "IMG_99991231_235959 (1000).jpg" (.fixed 0) ∧
    captureTime "IMG_99991231_235959 (1000).jpg" (.fixed 0) = none ∧
    let bench : Bench := { internal := { files := [("IMG_99991231_235959 (1000).jpg", ⟨#[1]⟩)] } }
    let codec : Codec := { markingCodec true with thumbnail := fun media _ _ => .made media }
    (performed (Bench.library (session {} 1000 (.fixed 0)) codec 64).load {} bench).1.1 =
      .error .loadFailed := by
  have overruns : Overruns "IMG_99991231_235959 (1000).jpg" (.fixed 0) := by
    refine ⟨⟨"99991231".toList, "235959".toList, some "1000".toList⟩,
      ⟨yearStart 10000 * dayLength - second⟩, "1000".toList, 1000, ?_⟩
    refine ⟨?_, ?_, rfl, ?_, ?_, ?_⟩ <;> decide +kernel
  let bench : Bench := { internal := { files := [("IMG_99991231_235959 (1000).jpg", ⟨#[1]⟩)] } }
  let codec : Codec := { markingCodec true with thumbnail := fun media _ _ => .made media }
  have regular : bench.Regular :=
    ⟨⟨by simp [bench], by decide, by simp [bench]⟩, MemoryStore.regular_empty⟩
  have answers : (Bench.library (session {} 1000 (.fixed 0)) codec 64).Answers :=
    fun _ _ crashed => by cases crashed
  obtain ⟨undated, entries, found, loads⟩ :=
    load_fails_iff_overruns {} 1000 (.fixed 0) regular
  obtain ⟨fails, -⟩ := loads codec 64 answers {} rfl
  refine ⟨by decide +kernel, overruns, (undated _).mpr overruns, ?_⟩
  refine fails.mpr ⟨⟨.internal, "IMG_99991231_235959 (1000).jpg", 1⟩, ?_, overruns⟩
  have listed : (outcome (session {} 1000 (.fixed 0)).entries bench).1.toOption.map (·.pictures) =
      some [⟨.internal, "IMG_99991231_235959 (1000).jpg", 1⟩] := by decide +kernel
  rw [found] at listed
  have pictures : entries.pictures = [⟨.internal, "IMG_99991231_235959 (1000).jpg", 1⟩] :=
    Option.some.inj listed
  rw [pictures]
  exact List.mem_singleton_self _

/-- A name of any year has no time with the largest signed index of 64 bits, and a catalog with a
picture of that name beside another one is not loaded. -/
theorem load_fails_longIndex :
    captureTime "IMG_20240101_120000 (9223372036854775807).jpg" (.fixed 0) = none ∧
    captureTime "IMG_20240101_120000.jpg" (.fixed 0) ≠ none ∧
    let bench : Bench := { internal := { files := [("IMG_20240101_120000.jpg", ⟨#[1]⟩),
      ("IMG_20240101_120000 (9223372036854775807).jpg", ⟨#[2]⟩)] } }
    (performed (Bench.library (session {} 1000 (.fixed 0)) (markingCodec true) 64).load
      {} bench).1.1.isOk = false := by
  refine ⟨?_, ?_, ?_⟩ <;> decide +kernel

end CameraRoll
