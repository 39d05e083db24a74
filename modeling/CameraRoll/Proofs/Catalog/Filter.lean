import CameraRoll.Proofs.Catalog.Loading
import CameraRoll.Proofs.Naming.Duplicates
import CameraRoll.Proofs.Naming.Moved
import CameraRoll.Proofs.Resolver.Entries
import CameraRoll.Proofs.Resolver.Primaries
import CameraRoll.Proofs.Resolver.Start

/-!
What is listed and what can be dated. Outside, a file is listed by a stamp in its name, and dated by
a time in the regulated name. Main statement: `filter_finds_times`, that the one is found exactly
where the other is.
-/

namespace CameraRoll

open CameraRoll.Calendar CameraRoll.Naming CameraRoll.Text

open Bench

namespace Naming

/-! ### Times in texts -/

/-- The digits of a time, field by field. -/
structure TimeDigits where
  year : List Char
  month : List Char
  day : List Char
  hours : List Char
  minutes : List Char
  seconds : List Char
  lengths : year.length = 4 ∧ month.length = 2 ∧ day.length = 2 ∧
    hours.length = 2 ∧ minutes.length = 2 ∧ seconds.length = 2
  number : ∀ c ∈ year ++ month ++ day ++ (hours ++ minutes ++ seconds), isDigit c = true

/-- The digits as they stand in names, those of the date and those of the time of day behind a `_`
each. -/
def TimeDigits.text (digits : TimeDigits) : List Char :=
  '_' :: (digits.year ++ digits.month ++ digits.day) ++
    '_' :: (digits.hours ++ digits.minutes ++ digits.seconds)

/-- A time stands somewhere in the text. -/
def Timed (text : List Char) : Prop := ∃ digits : TimeDigits, digits.text <:+: text

private theorem take_append_take_append (text : List Char) (i j : Nat) :
    text.take i ++ (text.drop i).take j ++ text.drop (i + j) = text := by
  rw [List.append_assoc, ← List.drop_drop, List.take_append_drop, List.take_append_drop]

/-- The characters of a stamp are those of a time, whose fields are not told apart. -/
theorem isStampText_iff (text : List Char) :
    IsStampText text ↔ ∃ digits : TimeDigits, digits.text = text := by
  constructor
  · rintro ⟨date, time, rfl, eight, six, number⟩
    -- the fields are cut out of the digits, and put together they are all of them
    have dates := take_append_take_append date 4 2
    have times := take_append_take_append time 2 2
    refine ⟨⟨date.take 4, (date.drop 4).take 2, date.drop 6, time.take 2, (time.drop 2).take 2,
      time.drop 4, by simp [eight, six], by rwa [dates, times]⟩, ?_⟩
    simp only [TimeDigits.text, dates, times]
  · rintro ⟨digits, rfl⟩
    obtain ⟨four, month, day, hours, minutes, seconds⟩ := digits.lengths
    exact ⟨_, _, rfl, by simp [four, month, day], by simp [hours, minutes, seconds],
      digits.number⟩

theorem isStamped_iff_timed (name : String) : isStamped name = true ↔ Timed name.toList := by
  rw [isStamped_iff]
  constructor
  · rintro ⟨stamp, isStamp, inside⟩
    obtain ⟨digits, rfl⟩ := (isStampText_iff stamp).mp isStamp
    exact ⟨digits, inside⟩
  · rintro ⟨digits, inside⟩
    exact ⟨digits.text, (isStampText_iff _).mpr ⟨digits, rfl⟩, inside⟩

/-! ### Dating by a time that is found -/

/-- The time of a name is read from a stamp that is found in its regulated form: it is the epoch
only where the stamp has no wall clock or its own wall clock reads the epoch. -/
structure DatedByStamp (name : String) (zone : Zone) (time : ZonedTime) : Prop where
  dated : captureTime name zone = some time
  found : ∃ stamp, findStamp (regulateName name zone).toList = some stamp ∧
    (time = .epoch → ∀ wall, stamp.wallClock = some wall →
      wall.later stamp.duplicateMillis = ⟨0⟩ ∧ zone.offsetOf wall = 0)

section Regulated

variable {name : String} {zone : Zone}

theorem isSome_findStamp_iff (primary : (kindOf name).isPrimary = true) :
    (findStamp (regulateName name zone).toList).isSome = true ↔ isStamped name = true := by
  rw [← isStamped_regulateName primary zone, isStamped]

theorem isStamped_iff_regulated (primary : (kindOf name).isPrimary = true) :
    isStamped name = true ↔ Timed (regulateName name zone).toList := by
  rw [← isStamped_regulateName primary zone, isStamped_iff_timed]

/-- A wall clock that is found decides on the time. -/
theorem eq_of_stamp {stamp : Stamp} {wall : WallClock} {time : ZonedTime}
    (found : findStamp (regulateName name zone).toList = some stamp)
    (read : stamp.wallClock = some wall) (dated : captureTime name zone = some time) :
    time = ⟨wall.later stamp.duplicateMillis, zone.offsetOf wall⟩ := by
  rw [regulateName, String.toList_ofList] at found
  rw [captureTime, captureTimeOfChars, found] at dated
  dsimp only at dated
  rw [read] at dated
  dsimp only at dated
  split at dated
  · exact (Option.some.inj dated).symm
  · cases dated

theorem DatedByStamp.of_stamped {time : ZonedTime} (primary : (kindOf name).isPrimary = true)
    (stamped : isStamped name = true) (dated : captureTime name zone = some time) :
    DatedByStamp name zone time := by
  obtain ⟨stamp, found⟩ := Option.isSome_iff_exists.mp ((isSome_findStamp_iff primary).mpr stamped)
  refine ⟨dated, stamp, found, ?_⟩
  rintro rfl wall read
  have same := eq_of_stamp found read dated
  rw [ZonedTime.epoch, ZonedTime.mk.injEq] at same
  exact ⟨same.1.symm, same.2.symm⟩

end Regulated

end Naming

/-! ### Listing by a stamp -/

/-- Every picture that is loaded from outside is dated by a stamp. -/
theorem Library.datedByStamp_of_loadPictures {W : Type} {library : Library (StateM W)}
    {w after : W} {pictures : List Picture} (outside : library.resolver.hasExternal = true)
    (loaded : outcome library.loadPictures w = (.ok pictures, after)) :
    ∀ picture ∈ pictures, DatedByStamp picture.name library.resolver.zone picture.time := by
  obtain ⟨entries, between, listed, same, times⟩ := perm_loadPictures loaded
  obtain ⟨-, -, files, -, -, members⟩ := Resolver.mem_pictures_iff outside listed
  intro picture member
  have entry : picture.file ∈ entries.pictures := same.mem_iff.mp (List.mem_map_of_mem member)
  obtain ⟨-, primary, stamped⟩ := (members picture.file).mp entry
  exact .of_stamped primary stamped (times picture member)

/-- A name that starts like a picture's carries a stamp exactly if the pattern by which times are
read is found in the regulated name, in every zone. So the time of a picture from outside is always
that of a time which is found, and never the epoch because none was; and a file outside that starts
like a picture's is left out exactly if no time is found in its name, which dates it to the epoch. -/
theorem filter_finds_times :
    (∀ name zone, (kindOf name).isPrimary = true →
      (isStamped name = true ↔ Timed (regulateName name zone).toList) ∧
      ((findStamp (regulateName name zone).toList).isSome = true ↔
        Timed (regulateName name zone).toList)) ∧
    (∀ {W : Type} {library : Library (StateM W)} {w after : W} {pictures : List Picture},
      library.resolver.hasExternal = true →
      outcome library.loadPictures w = (.ok pictures, after) →
      ∀ picture ∈ pictures, DatedByStamp picture.name library.resolver.zone picture.time) ∧
    ∀ {W : Type} {resolver : Resolver (StateM W)} {w after : W} {entries : Entries},
      resolver.hasExternal = true → outcome resolver.entries w = (.ok entries, after) →
      ∃ inside between files, outcome (resolver.enumerate .internal) w = (.ok inside, between) ∧
        outcome (resolver.enumerate .external) between = (.ok files, after) ∧
        (∀ file ∈ entries.pictures, file ∈ files) ∧
        ∀ file ∈ files, file.kind.isPrimary = true → ∀ zone,
          (file ∈ entries.pictures ↔ Timed (regulateName file.name zone).toList) ∧
          (file ∉ entries.pictures → captureTime file.name zone = some .epoch) := by
  refine ⟨fun name zone primary => ?_, Library.datedByStamp_of_loadPictures, ?_⟩
  · have regulated : isStamped name = true ↔ Timed (regulateName name zone).toList :=
      isStamped_iff_regulated primary
    exact ⟨regulated, (isSome_findStamp_iff primary).trans regulated⟩
  · intro W resolver w after entries outside listed
    obtain ⟨inside, between, files, before, enumerated, members⟩ :=
      Resolver.mem_pictures_iff outside listed
    refine ⟨inside, between, files, before, enumerated,
      fun file entry => ((members file).mp entry).1, ?_⟩
    intro file here primary zone
    -- among such files, the stamp alone decides
    have entry : file ∈ entries.pictures ↔ isStamped file.name = true := by
      rw [members file, and_iff_right here, and_iff_right primary]
    refine ⟨entry.trans (isStamped_iff_regulated primary), fun left => ?_⟩
    rw [entry, Bool.not_eq_true] at left
    exact captureTime_of_unstamped primary left zone

/-- A picture with an index of the older scheme, one whose stamp is the epoch, and a video without a
stamp, which is left out. -/
theorem filter_finds_times_outside :
    let library := Bench.library (session { external := .present } 1000 (.fixed 0))
      (markingCodec true) 64
    let bench : Bench :=
      { external := { files := [("IMG_20240101_120000_2.jpg", ⟨#[1]⟩), ("VID_1.mkv", ⟨#[2]⟩),
          ("IMG_19700101_000000.jpg", ⟨#[3]⟩)] } }
    Timed (regulateName "IMG_20240101_120000_2.jpg" .system).toList ∧
    (∃ pictures after, outcome library.loadPictures bench = (.ok pictures, after) ∧
      (pictures.map (·.name)).Perm ["IMG_20240101_120000_2.jpg", "IMG_19700101_000000.jpg"] ∧
      ∀ picture ∈ pictures, DatedByStamp picture.name (.fixed 0) picture.time) ∧
    captureTime "IMG_19700101_000000.jpg" (.fixed 0) = some .epoch ∧
    ¬ Timed (regulateName "VID_1.mkv" (.fixed 3600)).toList ∧
    captureTime "VID_1.mkv" (.fixed 3600) = some .epoch := by
  intro library bench
  obtain ⟨agree, loads, leaves⟩ := filter_finds_times
  have serves : Serves library.resolver :=
    serves_session { external := .present } 1000 (.fixed 0)
  have regular : bench.Regular :=
    ⟨MemoryStore.regular_empty, ⟨by simp [bench], by decide, by simp [bench]⟩⟩
  have entries := Resolver.outcome_entries serves regular
  have primaries : library.resolver.primaries bench =
      [⟨.external, "IMG_20240101_120000_2.jpg", 1⟩, ⟨.external, "IMG_19700101_000000.jpg", 1⟩] := by
    decide +kernel
  refine ⟨?_, ?_, by decide +kernel, ?_⟩
  · exact (agree "IMG_20240101_120000_2.jpg" .system (by decide)).1.mp (by decide +kernel)
  · have done : (outcome library.loadPictures bench).1.isOk = true := by decide +kernel
    rcases loaded : outcome library.loadPictures bench with ⟨e | pictures, after⟩
    · rw [loaded] at done
      cases done
    · obtain ⟨listed, between, enumerated, same, -⟩ := Library.perm_loadPictures loaded
      cases enumerated.symm.trans entries
      refine ⟨pictures, after, rfl, ?_, loads rfl loaded⟩
      have names := same.map (·.name)
      rw [List.map_map, primaries] at names
      exact names
  · obtain ⟨inside, between, files, before, enumerated, -, alike⟩ := leaves rfl entries
    -- the bench is the same after each of both listings
    cases before.symm.trans (Resolver.outcome_enumerate_internal serves regular)
    cases enumerated.symm.trans (Resolver.outcome_enumerate serves regular rfl)
    let video : StoredFile := ⟨.external, "VID_1.mkv", 1⟩
    have left : video ∉ library.resolver.primaries bench := by
      rw [primaries]
      decide
    have member : video ∈ bench.filesAt .external := by decide +kernel
    obtain ⟨listed, dated⟩ := alike video member (by decide) (.fixed 3600)
    exact ⟨fun timed => left (listed.mpr timed), dated left⟩

end CameraRoll
