import CameraRoll.Proofs.Naming.Dated

/-!
The time of a stamp whose fields are beyond their usual range. Main statement:
`captureTime_rollsOver`, that each field carries over into the next larger unit, that the duplicate
index adds milliseconds in whatever spelling, and that a stamp out of the calendar counts as the
epoch.
-/

namespace CameraRoll.Naming

open CameraRoll.Calendar CameraRoll.Text

/-! ### Fields -/

/-- The fields that the digits of a stamp stand for. -/
def stampedFields (date time : List Char) : StampFields where
  year := decimalValue (date.take 4)
  month := decimalValue ((date.drop 4).take 2)
  day := decimalValue (date.drop 6)
  hours := decimalValue (time.take 2)
  minutes := decimalValue ((time.drop 2).take 2)
  seconds := decimalValue (time.drop 4)

theorem fields_dated {date time : List Char} (digits : StampDigits date time)
    (index : Option (List Char)) :
    Stamp.fields ⟨date, time, index⟩ = some (stampedFields date time) := by
  obtain ⟨eight, six, number⟩ := digits
  -- every field takes up some of the digits
  have read (field : List Char) (some_digit : 0 < field.length)
      (inside : field ⊆ date ∨ field ⊆ time) : readNumeral field = some (decimalValue field) := by
    refine readNumeral_of_isNumeral ⟨List.ne_nil_of_length_pos some_digit, fun c member => ?_⟩
    rcases inside with inDate | inTime
    · exact number c (List.mem_append_left _ (inDate member))
    · exact number c (List.mem_append_right _ (inTime member))
  have middle (s : List Char) (n : Nat) : (s.drop n).take 2 ⊆ s :=
    fun _ member => List.drop_subset n s (List.take_subset 2 _ member)
  have year := read (date.take 4) (by simp [eight]) (.inl (List.take_subset 4 date))
  have month := read ((date.drop 4).take 2) (by simp [eight]) (.inl (middle date 4))
  have day := read (date.drop 6) (by simp [eight]) (.inl (List.drop_subset 6 date))
  have hours := read (time.take 2) (by simp [six]) (.inr (List.take_subset 2 time))
  have minutes := read ((time.drop 2).take 2) (by simp [six]) (.inr (middle time 2))
  have seconds := read (time.drop 4) (by simp [six]) (.inr (List.drop_subset 4 time))
  simp only [Stamp.fields, year, month, day, hours, minutes, seconds]
  rfl

namespace StampFields

variable {fields : StampFields}

/-- What the fields carry over to: the first day of the month, months being counted on through the
years, and the wall clock, all else being counted on from that day. -/
structure RollsOver (fields : StampFields) (first : Date) (wall : WallClock) : Prop where
  day : first.day = 1
  month : 1 ≤ first.month ∧ first.month ≤ 12
  months : first.year * 12 + ((first.month : Int) - 1) =
    (fields.year : Int) * 12 + ((fields.month : Int) - 1)
  nanos : wall.nanos = (first.dayNumber + ((fields.day : Int) - 1)) * dayLength
    + ((fields.hours : Int) * 3600 + fields.minutes * 60 + fields.seconds) * second

theorem rollsOver (fields : StampFields) :
    fields.RollsOver fields.firstOfMonth fields.wallClock where
  day := rfl
  month := by
    simp only [firstOfMonth]
    omega
  months := by
    simp only [firstOfMonth]
    omega
  nanos := by
    rw [Int.add_mul, wallClock, monthStart]
    simp only [Int.natCast_add, Int.natCast_mul, Int.cast_ofNat_Int]

/-- Fields carry over to one day and one wall clock only. -/
theorem RollsOver.unique {first first' : Date} {wall wall' : WallClock}
    (rolled : fields.RollsOver first wall) (rolled' : fields.RollsOver first' wall') :
    first = first' ∧ wall = wall' := by
  obtain ⟨day, month, months, nanos⟩ := rolled
  obtain ⟨day', month', months', nanos'⟩ := rolled'
  obtain ⟨year, number, _⟩ := first
  obtain ⟨year', number', _⟩ := first'
  dsimp only at day month months day' month' months'
  obtain ⟨rfl, rfl⟩ : year = year' ∧ number = number' := by omega
  subst day day'
  refine ⟨rfl, ?_⟩
  rw [← nanos'] at nanos
  exact congrArg WallClock.mk nanos

theorem inRange_monthStart_iff :
    fields.monthStart.inRange = true ↔ InCalendar fields.firstOfMonth.year :=
  inRange_first_iff _ fields.rollsOver.month.2

/-- The wall clock of a stamp is what its fields carry over to, as far as the calendar goes. -/
theorem wallClock_dated {date time : List Char} (digits : StampDigits date time)
    (index : Option (List Char)) :
    let fields := stampedFields date time
    Stamp.wallClock ⟨date, time, index⟩ =
      if InCalendar fields.firstOfMonth.year ∧ InCalendar fields.wallClock.date.year then
        some fields.wallClock
      else none := by
  intro fields
  rw [Stamp.wallClock, fields_dated digits]
  change (if (fields.monthStart.inRange && fields.wallClock.inRange) = true
    then some fields.wallClock else none) = _
  refine if_congr ?_ rfl rfl
  rw [Bool.and_eq_true, inRange_monthStart_iff, WallClock.inRange_iff_years]

end StampFields

/-! ### Times -/

section Dated

variable {date time : List Char} (digits : StampDigits date time) (kind : MediaKind)
  {index : List Char} {millis : Nat} (indexText : IsIndexText index millis)
  {extension : List Char} (plain : IsPlainExtension extension) (zone : Zone)
include digits indexText plain

/-- Within the calendar, a name is dated to what its stamp carries over to, and so many milliseconds
later as its index says. -/
theorem captureTimeOfChars_inCalendar {first : Date} {wall : WallClock}
    (rolled : (stampedFields date time).RollsOver first wall) (month : InCalendar first.year)
    (inYears : InCalendar wall.date.year) (small : millis < 2 ^ 63)
    (later : InCalendar (wall.later millis).date.year) :
    captureTimeOfChars (datedBase kind date time ++ index ++ extension) zone =
      some ⟨wall.later millis, zone.offsetOf wall⟩ := by
  obtain ⟨rfl, rfl⟩ := rolled.unique (stampedFields date time).rollsOver
  have counted : countedMillis millis = millis := if_pos (Nat.le_of_lt_succ small)
  rw [captureTimeOfChars_indexText digits kind indexText plain,
    StampFields.wallClock_dated digits, if_pos ⟨month, inYears⟩]
  dsimp only
  rw [counted, if_pos ((WallClock.inRange_iff_years _).mpr later)]

/-- Beyond the calendar, a name is dated to the epoch. -/
theorem captureTimeOfChars_outOfCalendar {first : Date} {wall : WallClock}
    (rolled : (stampedFields date time).RollsOver first wall)
    (beyond : ¬ (InCalendar first.year ∧ InCalendar wall.date.year)) :
    captureTimeOfChars (datedBase kind date time ++ index ++ extension) zone = some .epoch := by
  obtain ⟨rfl, rfl⟩ := rolled.unique (stampedFields date time).rollsOver
  rw [captureTimeOfChars_indexText digits kind indexText plain,
    StampFields.wallClock_dated digits, if_neg beyond]

/-- A name with a stamp of any digits is dated in its zone: to the days up to the first of the month
that its fields carry over to, the days, hours, minutes and seconds from then on, and the
milliseconds of its duplicate index. If the calendar has no such month or wall clock, it is dated to
the epoch. -/
theorem captureTime_rollsOver :
    let name := String.ofList (datedBase kind date time ++ index ++ extension)
    ∃ first wall, (stampedFields date time).RollsOver first wall ∧
      (InCalendar first.year → InCalendar wall.date.year → millis < 2 ^ 63 →
        InCalendar (wall.later millis).date.year →
        ∃ read, captureTime name zone = some read ∧ read.offset = zone.offsetOf wall ∧
          read.instant.nanos = wall.nanos - zone.offsetOf wall * second + millis * 1000000) ∧
      (¬ (InCalendar first.year ∧ InCalendar wall.date.year) →
        captureTime name zone = some .epoch) := by
  intro name
  have chars : name.toList = datedBase kind date time ++ index ++ extension := String.toList_ofList
  have rolled := (stampedFields date time).rollsOver
  refine ⟨_, _, rolled, fun month inYears small later => ?_, fun beyond => ?_⟩
  · have read := captureTimeOfChars_inCalendar digits kind indexText plain zone rolled month inYears
      small later
    refine ⟨_, by rw [captureTime, chars, read], rfl, ?_⟩
    simp only [ZonedTime.instant, WallClock.later]
    omega
  · rw [captureTime, chars]
    exact captureTimeOfChars_outOfCalendar digits kind indexText plain zone rolled beyond

end Dated

/-- A month 0, a day 0 and a time of four days, on the fourth of December before the year 0. -/
theorem captureTime_rollsOver_zeros :
    (StampDigits (List.replicate 8 '0') ['9', '9', '2', '5', '6', '0'] ∧
      IsIndexText ['_', '0', '1', '2'] 12 ∧ IsPlainExtension ['.', 'w', 'e', 'b', 'm']) ∧
    ∃ read, captureTime "VID_00000000_992560_012.webm" (.fixed 3600) = some read ∧
      read.instant.nanos = -62169629639988000000 := by
  have digits : StampDigits (List.replicate 8 '0') ['9', '9', '2', '5', '6', '0'] :=
    ⟨by decide, by decide, List.all_eq_true.mp (by decide)⟩
  have indexText : IsIndexText ['_', '0', '1', '2'] 12 :=
    IsIndexText.older (by decide : IsNumeral ['0', '1', '2'])
  have plain : IsPlainExtension ['.', 'w', 'e', 'b', 'm'] := by decide
  obtain ⟨first, wall, rolled, within, -⟩ :=
    captureTime_rollsOver digits .video indexText plain (.fixed 3600)
  obtain ⟨rfl, rfl⟩ := rolled.unique (StampFields.rollsOver _)
  have nanos :
      (stampedFields (List.replicate 8 '0') ['9', '9', '2', '5', '6', '0']).wallClock.nanos =
      -62169626040000000000 := by decide +kernel
  obtain ⟨time, read, -, instant⟩ :=
    within (by decide +kernel) (by decide +kernel) (by decide) (by decide +kernel)
  refine ⟨⟨digits, indexText, plain⟩, time, ?_, ?_⟩
  · rw [← read]
    exact congrArg (captureTime · (.fixed 3600)) (by decide +kernel)
  · rw [instant, nanos]
    decide

/-- The names after one without an index are dated one millisecond after the other. -/
theorem captureTime_iterate_dated {date time : List Char} (digits : StampDigits date time)
    (kind : MediaKind) {extension : List Char} (plain : IsPlainExtension extension) (zone : Zone)
    {first : Date} {wall : WallClock} (rolled : (stampedFields date time).RollsOver first wall)
    (month : InCalendar first.year) (inYears : InCalendar wall.date.year) {n : Nat}
    (small : n < 2 ^ 63) (later : InCalendar (wall.later n).date.year) :
    captureTime (nextName^[n] (String.ofList (datedBase kind date time ++ extension))) zone =
      some ⟨wall.later n, zone.offsetOf wall⟩ := by
  have fits : n ≤ maxWord64 := (Nat.le_of_lt small).trans (by decide)
  rw [iterate_nextName_dated digits kind plain fits, captureTime, String.toList_ofList]
  exact captureTimeOfChars_inCalendar digits kind (isIndexText_countedIndex n) plain zone rolled
    month inYears small later

end CameraRoll.Naming
