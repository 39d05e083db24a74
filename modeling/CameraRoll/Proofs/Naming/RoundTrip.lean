import CameraRoll.Proofs.Calendar.Fields
import CameraRoll.Proofs.Naming.Dated

/-!
Canonical names and the times in them. Main statements: `captureTime_written`, that date and time
are read back as they were written, whatever follows them without another stamp, and
`canonicalName_readBack`, that a canonical name tells the instant and the kind of its picture.
-/

namespace CameraRoll.Naming

open CameraRoll.Calendar CameraRoll.Text

/-! ### What is written -/

/-- The digits of the date in a name. -/
def dateDigits (wall : WallClock) : List Char :=
  yearField wall.date.year ++ paddedNumeral 2 wall.date.month ++ paddedNumeral 2 wall.date.day

/-- The digits of the time of day in a name. -/
def timeDigits (wall : WallClock) : List Char :=
  paddedNumeral 2 wall.hour ++ paddedNumeral 2 wall.minute ++ paddedNumeral 2 wall.secondOfMinute

/-- A canonical name without its extension. -/
def writtenBase (kind : MediaKind) (wall : WallClock) : List Char :=
  (startOf kind).toList ++ stampField wall

/-- The year of the wall clock has four digits. -/
def InFourDigitYears (wall : WallClock) : Prop := 0 ≤ wall.date.year ∧ wall.date.year ≤ 9999

section Written

variable {wall : WallClock} (years : InFourDigitYears wall)
include years

theorem yearField_of_years :
    yearField wall.date.year = paddedNumeral 4 wall.date.year.toNat := by
  obtain ⟨first, last⟩ := years
  have same : wall.date.year.natAbs = wall.date.year.toNat := by omega
  rw [yearField, if_neg (by omega), same]

theorem length_fields :
    (paddedNumeral 4 wall.date.year.toNat).length = 4 ∧
    (paddedNumeral 2 wall.date.month).length = 2 ∧ (paddedNumeral 2 wall.date.day).length = 2 ∧
    (paddedNumeral 2 wall.hour).length = 2 ∧ (paddedNumeral 2 wall.minute).length = 2 ∧
    (paddedNumeral 2 wall.secondOfMinute).length = 2 := by
  obtain ⟨first, last⟩ := years
  obtain ⟨⟨-, month⟩, -, day⟩ := Date.ofDayNumber_bounds (wall.nanos / dayLength)
  obtain ⟨hour, minute, second⟩ := wall.time_bounds
  have month : wall.date.month ≤ 12 := month
  have day : wall.date.day ≤ 31 := day
  refine ⟨length_paddedNumeral (by decide) ?_, length_paddedNumeral (by decide) ?_,
    length_paddedNumeral (by decide) ?_, length_paddedNumeral (by decide) ?_,
    length_paddedNumeral (by decide) ?_, length_paddedNumeral (by decide) ?_⟩ <;> omega

theorem length_dateDigits : (dateDigits wall).length = 8 := by
  obtain ⟨year, month, day, -⟩ := length_fields years
  simp only [dateDigits, yearField_of_years years, List.length_append]
  omega

theorem length_timeDigits : (timeDigits wall).length = 6 := by
  obtain ⟨-, -, -, hour, minute, second⟩ := length_fields years
  simp only [timeDigits, List.length_append]
  omega

theorem isAsciiDigit_of_mem_digits {c : Char} (member : c ∈ dateDigits wall ++ timeDigits wall) :
    isAsciiDigit c = true := by
  simp only [dateDigits, yearField_of_years years, timeDigits, List.mem_append] at member
  rcases member with ((digit | digit) | digit) | (digit | digit) | digit <;>
    exact isAsciiDigit_of_mem_paddedNumeral digit

theorem stampDigits_written : StampDigits (dateDigits wall) (timeDigits wall) where
  eight := length_dateDigits years
  six := length_timeDigits years
  number := fun _ member => isAsciiDigit_of_mem_digits years member

/-- The fields of a written stamp are read as the fields of the wall clock. -/
theorem fields_written (index : Option (List Char)) :
    Stamp.fields ⟨dateDigits wall, timeDigits wall, index⟩ =
      some ⟨wall.date.year.toNat, wall.date.month, wall.date.day, wall.hour, wall.minute,
        wall.secondOfMinute⟩ := by
  obtain ⟨year, month, day, hour, minute, second⟩ := length_fields years
  have date : dateDigits wall = paddedNumeral 4 wall.date.year.toNat
      ++ (paddedNumeral 2 wall.date.month ++ paddedNumeral 2 wall.date.day) := by
    rw [dateDigits, yearField_of_years years, List.append_assoc]
  have time : timeDigits wall = paddedNumeral 2 wall.hour
      ++ (paddedNumeral 2 wall.minute ++ paddedNumeral 2 wall.secondOfMinute) :=
    List.append_assoc _ _ _
  have six : (dateDigits wall).drop 6 = paddedNumeral 2 wall.date.day := by
    rw [date, ← List.append_assoc]
    exact List.drop_left' (by simp [year, month])
  have four : (timeDigits wall).drop 4 = paddedNumeral 2 wall.secondOfMinute := by
    rw [time, ← List.append_assoc]
    exact List.drop_left' (by simp [hour, minute])
  simp only [Stamp.fields, six, four]
  rw [date, time, List.take_left' year, List.drop_left' year, List.take_left' month,
    List.take_left' hour, List.drop_left' hour, List.take_left' minute]
  simp [readNumeral_paddedNumeral]

/-- The wall clock of a written stamp is that of the picture without its fraction of a second. -/
theorem wallClock_written (index : Option (List Char)) :
    Stamp.wallClock ⟨dateDigits wall, timeDigits wall, index⟩ =
      some ⟨wall.nanos / second * second⟩ := by
  obtain ⟨first, last⟩ := years
  have inYears := wall.nanos_of_years ⟨first, last⟩
  obtain ⟨⟨month, twelve⟩, day, -⟩ := Date.ofDayNumber_bounds (wall.nanos / dayLength)
  have month : 1 ≤ wall.date.month := month
  have twelve : wall.date.month ≤ 12 := twelve
  have day : 1 ≤ wall.date.day := day
  let fields : StampFields := ⟨wall.date.year.toNat, wall.date.month, wall.date.day, wall.hour,
    wall.minute, wall.secondOfMinute⟩
  -- nothing is carried over, since every field is in its usual range
  have start : fields.firstOfMonth = ⟨wall.date.year, wall.date.month, 1⟩ := by
    simp only [fields, StampFields.firstOfMonth, Date.mk.injEq, and_true]
    omega
  have whole : fields.wallClock = ⟨wall.nanos / second * second⟩ := by
    simp only [StampFields.wallClock, StampFields.monthStart, start]
    rw [wall.nanos_eq_fields, wall.date.dayNumber_eq_first]
    simp only [fields, WallClock.mk.injEq, dayLength, second]
    omega
  -- the month begins within the year, and the time without its fraction is not before the month
  have year := yearStart_le_first wall.date.year wall.date.month
  have early : yearStart 0 ≤ yearStart wall.date.year := yearStart_mono first
  have later := wall.date.dayNumber_eq_first
  have sum := wall.nanos_eq_fields
  have ranges : fields.monthStart.inRange = true ∧ fields.wallClock.inRange = true := by
    rw [whole]
    simp only [StampFields.monthStart, start, WallClock.inRange, Bool.and_eq_true,
      decide_eq_true_eq]
    simp only [yearStart, dayLength, second] at *
    omega
  have read := fields_written ⟨first, last⟩ index
  rw [Stamp.wallClock, read]
  change (if (fields.monthStart.inRange && fields.wallClock.inRange) = true
    then some fields.wallClock else none) = _
  rw [if_pos (by simp [ranges]), whole]

end Written

/-! ### Written names -/

/-- A name that starts like those of a kind. -/
def nameKindOf : MediaKind → NameKind
  | .image => .image
  | .video => .video

theorem kindOfChars_append (kind : MediaKind) (rest : List Char) :
    kindOfChars ((startOf kind).toList ++ rest) = nameKindOf kind := by
  cases kind <;> rfl

theorem writtenBase_eq (kind : MediaKind) (wall : WallClock) :
    writtenBase kind wall = datedBase kind (dateDigits wall) (timeDigits wall) := rfl

section Written

variable {wall : WallClock} (years : InFourDigitYears wall)
include years

/-- A written stamp is regulated already. -/
theorem regulateChars_written (kind : MediaKind) {rest : List Char} (plain : '_' ∉ rest)
    (current : rest ≠ legacyVideoExtension.toList) (zone : Zone) :
    regulateChars (writtenBase kind wall ++ rest) zone = writtenBase kind wall ++ rest := by
  rw [writtenBase_eq, regulateChars_dated (stampDigits_written years) kind plain, currentExtension,
    if_neg current]

/-- The stamp found in a written name is the one that was written. -/
theorem findStamp_written (kind : MediaKind) (rest : List Char) :
    findStamp (writtenBase kind wall ++ rest) =
      some ⟨dateDigits wall, timeDigits wall, (bracketedIndex rest).map (·.1)⟩ :=
  findStamp_dated (stampDigits_written years) kind rest

/-- Date and time are read back as they were written, and what follows them counts as a duplicate
index or not at all. -/
theorem captureTime_written (kind : MediaKind) {rest : List Char} (plain : '_' ∉ rest)
    (current : rest ≠ legacyVideoExtension.toList) (zone : Zone) :
    captureTimeOfChars (writtenBase kind wall ++ rest) zone =
      let millis :=
        (((bracketedIndex rest).map (·.1)).bind (readNumeralUpTo maxSigned64)).getD 0
      let time : WallClock := ⟨wall.nanos / second * second + millis * 1000000⟩
      if time.inRange then some ⟨time, zone.offsetOf ⟨wall.nanos / second * second⟩⟩ else none := by
  rw [captureTimeOfChars, regulateChars_written years kind plain current,
    findStamp_written years kind]
  dsimp only
  rw [wallClock_written years]
  rfl

end Written

/-! ### Canonical names -/

/-- Pictures taken on a wall clock whose year has four digits are named on it. -/
theorem namingClock_of_years {instant : Instant} {zone : Zone}
    (years : InFourDigitYears (instant.wallClock (zone.offsetAt instant))) :
    namingClock instant zone = instant.wallClock (zone.offsetAt instant) := by
  obtain ⟨first, last⟩ := years
  exact if_pos ((WallClock.inRange_iff_years _).mpr ⟨by omega, last⟩)

/-- Where the zone's clock has left the calendar, that of universal time shows much the same year. -/
theorem year_namingClock_lt {instant : Instant} {zone : Zone}
    (clock : IsClockOffset (zone.offsetAt instant))
    (early : (instant.wallClock (zone.offsetAt instant)).date.year < 9000) :
    (namingClock instant zone).date.year < 9000 := by
  unfold namingClock
  dsimp only
  split
  · exact early
  next beyond =>
    rw [WallClock.inRange_iff_years] at beyond
    generalize isWall : instant.wallClock (zone.offsetAt instant) = wall at early beyond
    have past : wall.date.year < -9999 := by
      unfold InCalendar at beyond
      omega
    refine Int.not_le.mp fun late => ?_
    have begun := (WallClock.nanos_of_years _ ⟨late, Int.le_refl _⟩).1
    have ended := (wall.nanos_of_years ⟨Int.le_refl _, Int.le_refl _⟩).2
    have sooner : yearStart (wall.date.year + 1) ≤ yearStart (-9999) := yearStart_mono (by omega)
    have apart : yearStart (-9999) + 100 < yearStart 9000 := by decide
    have nanos : wall.nanos = instant.nanos + zone.offsetAt instant * second := isWall ▸ rfl
    simp only [IsClockOffset, Instant.wallClock, dayLength, second] at clock begun ended nanos
    omega

/-- The name of a picture taken on a wall clock whose year has four digits is written from it. -/
theorem canonicalChars_eq (kind : MediaKind) {instant : Instant} {zone : Zone}
    (years : InFourDigitYears (instant.wallClock (zone.offsetAt instant))) :
    canonicalChars kind instant zone =
      writtenBase kind (instant.wallClock (zone.offsetAt instant)) ++
        (extensionOf kind).toList := by
  rw [canonicalChars, namingClock_of_years years, writtenBase]

theorem extensionOf_plain (kind : MediaKind) :
    '_' ∉ (extensionOf kind).toList ∧ (extensionOf kind).toList ≠ legacyVideoExtension.toList ∧
      bracketedIndex (extensionOf kind).toList = none := by
  cases kind <;> decide

theorem kindOf_canonicalName (kind : MediaKind) (instant : Instant) (zone : Zone) :
    kindOf (canonicalName kind instant zone) = nameKindOf kind := by
  rw [kindOf, canonicalName, String.toList_ofList, canonicalChars, List.append_assoc,
    kindOfChars_append]

theorem isStamped_named (kind : MediaKind) {instant : Instant} {zone : Zone}
    (years : InFourDigitYears (namingClock instant zone)) :
    isStamped (canonicalName kind instant zone) = true := by
  rw [isStamped, canonicalName, String.toList_ofList, canonicalChars, ← writtenBase,
    findStamp_written years kind]
  rfl

theorem isStamped_canonicalName (kind : MediaKind) {instant : Instant} {zone : Zone}
    (years : InFourDigitYears (instant.wallClock (zone.offsetAt instant))) :
    isStamped (canonicalName kind instant zone) = true :=
  isStamped_named kind (by rwa [namingClock_of_years years])

/-- A name that is tried for a new picture is of the picture's kind, so that it is no
thumbnail's. -/
theorem kindOf_iterate_canonicalName (kind : MediaKind) (now : Instant) (zone : Zone) (n : Nat) :
    kindOf (nextName^[n] (canonicalName kind now zone)) = nameKindOf kind :=
  (kindOf_iterate_nextName _ n).trans (kindOf_canonicalName kind now zone)

theorem not_thumbnail_iterate (kind : MediaKind) (now : Instant) (zone : Zone) (n : Nat) :
    isThumbnailName (nextName^[n] (canonicalName kind now zone)) = false := by
  rw [isThumbnailName, kindOf_iterate_canonicalName]
  cases kind <;> rfl

/-- A name that is tried for a new picture carries a stamp and is a picture's. -/
theorem isPrimary_iterate_nextName (kind : MediaKind) {now : Instant} {zone : Zone}
    (years : InFourDigitYears (namingClock now zone)) (n : Nat) :
    let name := nextName^[n] (canonicalName kind now zone)
    isStamped name = true ∧ (kindOf name).isPrimary = true ∧ isThumbnailName name = false := by
  intro name
  refine ⟨(isStamped_iterate_nextName _ n).trans (isStamped_named kind years), ?_,
    not_thumbnail_iterate kind now zone n⟩
  rw [kindOf_iterate_canonicalName]
  cases kind <;> rfl

/-- A canonical name is dated to what the clock showed, without its fraction of a second. Where clocks
are put forward or back, the offset it is read with need not be the one of the instant. -/
theorem captureTime_canonicalName (kind : MediaKind) {instant : Instant} {zone : Zone}
    (years : InFourDigitYears (instant.wallClock (zone.offsetAt instant))) :
    let shown : WallClock := ⟨(instant.wallClock (zone.offsetAt instant)).nanos / second * second⟩
    captureTime (canonicalName kind instant zone) zone = some ⟨shown, zone.offsetOf shown⟩ := by
  intro shown
  obtain ⟨plain, current, unindexed⟩ := extensionOf_plain kind
  have inRange : shown.inRange = true := by
    have inYears := WallClock.nanos_of_years _ years
    simp only [shown, WallClock.inRange, Bool.and_eq_true, decide_eq_true_eq]
    simp only [yearStart, dayLength, second] at *
    omega
  rw [captureTime, canonicalName, String.toList_ofList, canonicalChars_eq kind years,
    captureTime_written years kind plain current]
  simp [unindexed, shown, inRange]

theorem regulateName_canonicalName (kind : MediaKind) {instant : Instant} {zone : Zone}
    (years : InFourDigitYears (instant.wallClock (zone.offsetAt instant))) :
    regulateName (canonicalName kind instant zone) zone = canonicalName kind instant zone := by
  obtain ⟨plain, current, -⟩ := extensionOf_plain kind
  rw [regulateName, canonicalName, String.toList_ofList, canonicalChars_eq kind years,
    regulateChars_written years kind plain current]

/-- A canonical name of a zone whose offset never changes is read back: its time is the instant of
the picture without its fraction of a second, it is canonical and carries a stamp, and it is of the
kind of the picture. -/
theorem canonicalName_readBack (kind : MediaKind) (instant : Instant) {zone : Zone} {offset : Int}
    (keeps : zone.Keeps offset)
    (years : 0 ≤ (instant.wallClock offset).date.year ∧
      (instant.wallClock offset).date.year ≤ 9999) :
    (∃ time, captureTime (canonicalName kind instant zone) zone = some time ∧
      time.instant = .ofSeconds (instant.nanos / second) ∧ time.offset = offset) ∧
    regulateName (canonicalName kind instant zone) zone = canonicalName kind instant zone ∧
    isStamped (canonicalName kind instant zone) = true ∧
    kindOf (canonicalName kind instant zone) = nameKindOf kind := by
  rw [← keeps instant] at years
  refine ⟨⟨_, captureTime_canonicalName kind years, ?_, keeps.offsetOf _⟩,
    regulateName_canonicalName kind years, isStamped_canonicalName kind years,
    kindOf_canonicalName kind instant zone⟩
  simp only [ZonedTime.instant, keeps.offsetOf, keeps instant, Instant.wallClock, Instant.ofSeconds,
    Instant.mk.injEq, second]
  omega

/-- A video of the last moment of a day in February 1968, taken where the next day had begun. -/
theorem canonicalName_readBack_leapDay :
    (0 ≤ ((⟨-58060800000000001⟩ : Instant).wallClock 19800).date.year ∧
      ((⟨-58060800000000001⟩ : Instant).wallClock 19800).date.year ≤ 9999) ∧
    canonicalName .video ⟨-58060800000000001⟩ (.fixed 19800) = "VID_19680229_052959.mkv" ∧
    ∃ time, captureTime (canonicalName .video ⟨-58060800000000001⟩ (.fixed 19800)) (.fixed 19800) =
      some time ∧ time.instant = .ofSeconds (-58060801) := by
  have years : 0 ≤ ((⟨-58060800000000001⟩ : Instant).wallClock 19800).date.year ∧
      ((⟨-58060800000000001⟩ : Instant).wallClock 19800).date.year ≤ 9999 := by decide
  obtain ⟨⟨time, read, same, -⟩, -⟩ :=
    canonicalName_readBack .video ⟨-58060800000000001⟩ (Zone.keeps_fixed 19800) years
  have seconds : -58060800000000001 / second = -58060801 := by decide
  rw [seconds] at same
  exact ⟨years, by decide +kernel, time, read, same⟩

end CameraRoll.Naming
