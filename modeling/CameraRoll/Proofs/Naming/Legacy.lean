import CameraRoll.Proofs.Naming.Settled

/-!
Names of the oldest scheme, which hold the capture time in milliseconds. Main statements:
`legacyDigits_eq_some_iff`, that the search finds the number by the runs of digits of the name, and
`regulateName_legacy`, that a name without the start of a picture becomes the canonical name of that
moment if the calendar has it, and stays as it is otherwise.
-/

namespace CameraRoll.Naming

open CameraRoll.Calendar CameraRoll.Text

/-! ### Runs of digits -/

/-- A run of digits in a text that is as long as it can be, what is before it and what is behind. -/
structure IsRun (text front run rest : List Char) : Prop where
  whole : text = front ++ (run ++ rest)
  some_digit : run ≠ []
  number : ∀ c ∈ run, isDigit c = true
  before : ∀ c ∈ front.getLast?, isDigit c = false
  behind : ∀ c ∈ rest.head?, isDigit c = false

/-- Behind a run, one character that is no line break, and another digit. -/
def Continues (rest : List Char) : Prop :=
  ∃ c d back, rest = c :: d :: back ∧ c ≠ '\n' ∧ isDigit d = true

/-- A run from which a number can be taken. -/
def Qualifies (run rest : List Char) : Prop := Continues rest ∨ 3 ≤ run.length

/-- The digits of a number in a name of the oldest scheme. They are taken from the first run that
qualifies: all of it if the name continues behind it, else all but the last two. -/
def IsLegacyNumber (name digits : List Char) : Prop :=
  ∃ front run rest, IsRun name front run rest ∧
    (Continues rest ∧ digits = run ∨
      ¬ Continues rest ∧ 3 ≤ run.length ∧ digits = run.dropLast.dropLast) ∧
    ∀ front' run' rest', IsRun name front' run' rest' → front'.length < front.length →
      ¬ Qualifies run' rest'

/-- No digit is among these characters. -/
def Digitless (text : List Char) : Prop := ∀ c ∈ text, isDigit c = false

theorem not_isRun_of_digitless {text : List Char} (plain : Digitless text)
    (front run rest : List Char) : ¬ IsRun text front run rest := by
  rintro ⟨rfl, some_digit, number, -, -⟩
  obtain ⟨c, run, rfl⟩ := List.exists_cons_of_ne_nil some_digit
  have digit := number c List.mem_cons_self
  rw [plain c (by simp)] at digit
  cases digit

theorem not_mem_getLast_of_digitless {text : List Char} (plain : Digitless text) :
    ∀ c ∈ text.getLast?, isDigit c = false :=
  fun c last => plain c (List.mem_of_getLast? last)

/-- A text is digitless, or has a first run. -/
theorem exists_first_run (text : List Char) :
    Digitless text ∨ ∃ plain run rest, Digitless plain ∧ IsRun text plain run rest := by
  induction text with
  | nil => exact .inl (by simp [Digitless])
  | cons c text ih =>
    by_cases digit : isDigit c = true
    -- the first run begins right here
    · have pieces : (spanDigits (c :: text)).1 ++ (spanDigits (c :: text)).2 = c :: text :=
        List.takeWhile_append_dropWhile
      refine .inr ⟨[], (spanDigits (c :: text)).1, (spanDigits (c :: text)).2, by simp [Digitless],
        pieces.symm, by simp [spanDigits, digit], ?_, by simp, ?_⟩
      · exact fun d member => List.all_eq_true.mp (List.all_takeWhile ..) d member
      · intro d first
        have stops := List.head?_dropWhile_not isDigit (c :: text)
        simp only [spanDigits, Option.mem_def] at first
        simpa [first] using stops
    · rw [Bool.not_eq_true] at digit
      rcases ih with plain | ⟨plain, run, rest, digitless, rfl, some_digit, number, -, behind⟩
      · exact .inl (List.forall_mem_cons.mpr ⟨digit, plain⟩)
      · have more : Digitless (c :: plain) := List.forall_mem_cons.mpr ⟨digit, digitless⟩
        exact .inr ⟨c :: plain, run, rest, more, rfl, some_digit, number,
          not_mem_getLast_of_digitless more, behind⟩

/-- A run of digits at the front is as long as it can be in one way only. -/
private theorem eq_of_longest {run rest run' rest' : List Char}
    (number : ∀ c ∈ run, isDigit c = true) (behind : ∀ c ∈ rest.head?, isDigit c = false)
    (number' : ∀ c ∈ run', isDigit c = true) (behind' : ∀ c ∈ rest'.head?, isDigit c = false)
    (same : run ++ rest = run' ++ rest') : run = run' ∧ rest = rest' := by
  have spanned := spanDigits_append number behind
  rw [same, spanDigits_append number' behind', Prod.mk.injEq] at spanned
  exact ⟨spanned.1.symm, spanned.2.symm⟩

section FirstRun

variable {text plain run rest : List Char} (digitless : Digitless plain)
  (first : IsRun text plain run rest)
include digitless first

/-- The runs of a text are its first run and those of what is behind it. -/
theorem isRun_iff (front' run' rest' : List Char) :
    IsRun text front' run' rest' ↔
      (front' = plain ∧ run' = run ∧ rest' = rest) ∨
        ∃ later, front' = plain ++ (run ++ later) ∧ IsRun rest later run' rest' := by
  constructor
  · rintro ⟨whole, some_digit', number', before', behind'⟩
    obtain ⟨rfl, -, number, -, behind⟩ := first
    rcases List.append_eq_append_iff.mp whole with ⟨middle, rfl, same⟩ | ⟨middle, rfl, same⟩
    · rcases List.append_eq_append_iff.mp same with ⟨later, rfl, rfl⟩ | ⟨inside, rfl, same⟩
      -- the other run begins behind the first one
      · refine .inr ⟨later, rfl, rfl, some_digit', number', fun c last => before' c ?_, behind'⟩
        rw [Option.mem_def] at last
        simp [last]
      -- or within it, which it can only at its start
      · cases middle using List.reverseRecOn with
        | nil =>
          obtain ⟨rfl, rfl⟩ := eq_of_longest number' behind' number behind same.symm
          exact .inl ⟨List.append_nil _, rfl, rfl⟩
        | append_singleton middle c =>
          have other := before' c (by simp)
          rw [number c (by simp)] at other
          cases other
    -- or before it, where there are no digits
    · cases middle with
      | nil =>
        obtain ⟨rfl, rfl⟩ := eq_of_longest number' behind' number behind same
        exact .inl ⟨(List.append_nil _).symm, rfl, rfl⟩
      | cons c middle =>
        obtain ⟨d, run', rfl⟩ := List.exists_cons_of_ne_nil some_digit'
        obtain ⟨rfl, -⟩ := List.cons.inj same
        have digit := number' d List.mem_cons_self
        rw [digitless d (by simp)] at digit
        cases digit
  · rintro (⟨rfl, rfl, rfl⟩ | ⟨later, rfl, rfl, some_digit', number', before', behind'⟩)
    · exact first
    · obtain ⟨rfl, -, -, -, behind⟩ := first
      refine ⟨by simp, some_digit', number', fun c last => ?_, behind'⟩
      cases later using List.reverseRecOn with
      | nil =>
        -- the digits behind the first run do not follow it at once
        obtain ⟨d, run', rfl⟩ := List.exists_cons_of_ne_nil some_digit'
        have other := behind d rfl
        rw [number' d List.mem_cons_self] at other
        cases other
      | append_singleton later d => exact before' c (by simpa using last)

/-- The number is taken from the first run, or looked for behind it. -/
theorem isLegacyNumber_iff (digits : List Char) :
    IsLegacyNumber text digits ↔
      (Continues rest ∧ digits = run) ∨
        (¬ Continues rest ∧ 3 ≤ run.length ∧ digits = run.dropLast.dropLast) ∨
        (¬ Qualifies run rest ∧ IsLegacyNumber rest digits) := by
  have runs := isRun_iff digitless first
  have short : plain.length < (plain ++ run).length := by
    have := List.length_pos_of_ne_nil first.some_digit
    rw [List.length_append]
    omega
  constructor
  -- the run that the number is in is the first one or stands behind it
  · rintro ⟨front', run', rest', isRun, taken, earliest⟩
    rcases (runs front' run' rest').mp isRun with ⟨rfl, rfl, rfl⟩ | ⟨later, rfl, among⟩
    · rcases taken with taken | taken
      · exact .inl taken
      · exact .inr (.inl taken)
    · refine .inr (.inr ⟨earliest plain run rest first ?_, later, run', rest', among, taken, ?_⟩)
      · simp only [List.length_append] at short ⊢
        omega
      · intro front'' run'' rest'' isRun earlier
        refine earliest _ run'' rest'' ((runs _ _ _).mpr (.inr ⟨front'', rfl, isRun⟩)) ?_
        simp only [List.length_append]
        omega
  -- no run begins before the first one, and behind it the choice is that of the rest
  · have none_earlier : ∀ front' run' rest', IsRun text front' run' rest' →
        front'.length < plain.length → ¬ Qualifies run' rest' := by
      intro front' run' rest' isRun earlier
      exfalso
      rcases (runs front' run' rest').mp isRun with ⟨rfl, -⟩ | ⟨later, rfl, -⟩
      · omega
      · simp only [List.length_append] at earlier
        omega
    rintro (taken | taken | ⟨unqualified, front', run', rest', isRun, taken, earliest⟩)
    · exact ⟨plain, run, rest, first, .inl taken, none_earlier⟩
    · exact ⟨plain, run, rest, first, .inr taken, none_earlier⟩
    · refine ⟨_, run', rest', (runs _ _ _).mpr (.inr ⟨front', rfl, isRun⟩), taken, ?_⟩
      intro front'' run'' rest'' isRun earlier
      rcases (runs front'' run'' rest'').mp isRun with ⟨rfl, rfl, rfl⟩ | ⟨later, rfl, among⟩
      · exact unqualified
      · refine earliest later run'' rest'' among ?_
        simp only [List.length_append] at earlier
        omega

end FirstRun

/-! ### Searching for the number -/

theorem legacyDigits_of_digitless {plain : List Char} (digitless : Digitless plain)
    (rest : List Char) : legacyDigits (plain ++ rest) = legacyDigits rest := by
  induction plain with
  | nil => rfl
  | cons c plain ih =>
    obtain ⟨noDigit, later⟩ := List.forall_mem_cons.mp digitless
    rw [List.cons_append, legacyDigits, if_neg (by simp [noDigit])]
    exact ih later

/-- One step of the search, at the start of a run or within it. -/
private theorem legacyDigits_cons {c : Char} {run rest : List Char}
    (number : ∀ d ∈ c :: run, isDigit d = true) (behind : ∀ d ∈ rest.head?, isDigit d = false) :
    (Continues rest → legacyDigits (c :: run ++ rest) = some (c :: run)) ∧
      (¬ Continues rest → legacyDigits (c :: run ++ rest) =
        if (c :: run).length < 3 then legacyDigits (run ++ rest)
        else some (c :: run).dropLast.dropLast) := by
  have spanned := spanDigits_append number behind
  rw [List.cons_append] at spanned ⊢
  rw [legacyDigits, if_pos (number c List.mem_cons_self), spanned]
  match rest with
  | [] | [_] =>
    refine ⟨?_, fun _ => rfl⟩
    rintro ⟨d, e, back, same, -⟩
    cases same
  | d :: e :: back =>
    have continues : Continues (d :: e :: back) ↔ (d != '\n' && isDigit e) = true := by
      simp [Continues]
    dsimp only
    constructor
    · intro goes_on
      rw [if_pos (continues.mp goes_on)]
    · intro ends
      rw [if_neg (fun found => ends (continues.mpr found))]

/-- A run that does not qualify is passed over. -/
private theorem legacyDigits_unqualified {run rest : List Char}
    (number : ∀ d ∈ run, isDigit d = true) (behind : ∀ d ∈ rest.head?, isDigit d = false)
    (unqualified : ¬ Qualifies run rest) : legacyDigits (run ++ rest) = legacyDigits rest := by
  rw [Qualifies, not_or, Nat.not_le] at unqualified
  obtain ⟨ends, short⟩ := unqualified
  -- by induction on the run, whose digits are looked at one by one
  induction run with
  | nil => rfl
  | cons c run ih =>
    rw [(legacyDigits_cons number behind).2 ends, if_pos short]
    exact ih (fun d member => number d (List.mem_cons_of_mem _ member))
      (Nat.lt_of_succ_lt (by simpa using short))

/-- The search finds the number that the runs of digits tell. -/
theorem legacyDigits_eq_some_iff (name digits : List Char) :
    legacyDigits name = some digits ↔ IsLegacyNumber name digits := by
  -- by induction on the length of the name, from one run of digits to the next
  induction length : name.length using Nat.strongRecOn generalizing name with
  | _ n ih =>
    rcases exists_first_run name with plain | ⟨plain, run, rest, digitless, first⟩
    · have nothing := legacyDigits_of_digitless plain []
      rw [List.append_nil] at nothing
      rw [nothing]
      constructor
      · intro found
        cases found
      · rintro ⟨front, run, rest, isRun, -⟩
        exact absurd isRun (not_isRun_of_digitless plain front run rest)
    · rw [isLegacyNumber_iff digitless first]
      obtain ⟨rfl, some_digit, number, -, behind⟩ := first
      rw [legacyDigits_of_digitless digitless]
      by_cases qualified : Qualifies run rest
      · obtain ⟨c, run, rfl⟩ := List.exists_cons_of_ne_nil some_digit
        obtain ⟨whole, cut⟩ := legacyDigits_cons number behind
        by_cases goes_on : Continues rest
        · rw [whole goes_on]
          simp [goes_on, qualified, eq_comm]
        · have long : 3 ≤ (c :: run).length := qualified.resolve_left goes_on
          rw [cut goes_on, if_neg (Nat.not_lt.mpr long)]
          simp only [goes_on, qualified, long, false_and, not_false_eq_true, true_and,
            not_true_eq_false, or_false, false_or, Option.some.injEq, eq_comm]
      · have shorter : rest.length < n := by
          have := List.length_pos_of_ne_nil some_digit
          simp only [List.length_append] at length
          omega
        rw [legacyDigits_unqualified number behind qualified, ih rest.length shorter rest rfl]
        rw [Qualifies, not_or] at qualified
        simp [qualified, Qualifies]

theorem IsLegacyNumber.ne_nil {name digits : List Char} (number : IsLegacyNumber name digits) :
    digits ≠ [] := by
  obtain ⟨front, run, rest, isRun, taken, -⟩ := number
  rcases taken with ⟨-, rfl⟩ | ⟨-, long, rfl⟩
  · exact isRun.some_digit
  · refine List.ne_nil_of_length_pos ?_
    simp only [List.length_dropLast]
    omega

/-! ### The moment in a name -/

/-- The last moment of the calendar, in milliseconds since the epoch. -/
def lastMilli : Int :=
  Date.dayNumber ⟨9999, 12, 31⟩ * 86400000 + 23 * 3600000 + 59 * 60000 + 59999

/-- The moment so many milliseconds after the epoch as the digits tell. -/
def momentOf (digits : List Char) : Instant := ⟨decimalValue digits * 1000000⟩

/-- The digits are ASCII digits and tell a moment that the calendar has. -/
def TellsMoment (digits : List Char) : Prop :=
  (∀ c ∈ digits, isAsciiDigit c = true) ∧ (decimalValue digits : Int) ≤ lastMilli

theorem inRange_momentOf_iff (digits : List Char) :
    ((momentOf digits).wallClock 0).inRange = true ↔ (decimalValue digits : Int) ≤ lastMilli := by
  have first : yearStart (-9999) ≤ 0 := by decide
  have last : yearStart 10000 = 2932897 := by decide
  have day : Date.dayNumber ⟨9999, 12, 31⟩ = 2932896 := by decide
  rw [WallClock.inRange_iff, last, lastMilli, day]
  simp only [momentOf, Instant.wallClock, dayLength, second]
  omega

private theorem legacyInstant_of_digits {name digits : List Char}
    (found : legacyDigits name = some digits) (numeral : IsNumeral digits) :
    legacyInstant name =
      if ((momentOf digits).wallClock 0).inRange then some (momentOf digits) else none := by
  unfold legacyInstant
  rw [found, Option.bind_eq_bind, Option.bind_some, readNumeral_of_isNumeral numeral,
    Option.bind_eq_bind, Option.bind_some]
  rfl

theorem legacyInstant_eq_some_iff (name : List Char) (instant : Instant) :
    legacyInstant name = some instant ↔
      ∃ digits, IsLegacyNumber name digits ∧ TellsMoment digits ∧ momentOf digits = instant := by
  constructor
  · intro read
    obtain ⟨digits, found, after⟩ := Option.bind_eq_some_iff.mp read
    obtain ⟨millis, value, -⟩ := Option.bind_eq_some_iff.mp after
    have numeral := ((readNumeral_eq_some_iff _ _).mp value).1
    rw [legacyInstant_of_digits found numeral] at read
    split at read
    next inRange =>
      exact ⟨digits, (legacyDigits_eq_some_iff _ _).mp found,
        ⟨numeral.2, (inRange_momentOf_iff digits).mp inRange⟩, Option.some.inj read⟩
    · cases read
  · rintro ⟨digits, number, ⟨ascii, small⟩, rfl⟩
    rw [legacyInstant_of_digits ((legacyDigits_eq_some_iff _ _).mpr number) ⟨number.ne_nil, ascii⟩,
      if_pos ((inRange_momentOf_iff digits).mpr small)]

/-- In the zones of clocks, moments after the epoch are not before the year 0. -/
theorem year_momentOf (digits : List Char) {offset : Int} (clock : IsClockOffset offset) :
    0 ≤ ((momentOf digits).wallClock offset).date.year := by
  let wall := (momentOf digits).wallClock offset
  refine Int.not_lt.mp fun (past : wall.date.year < 0) => ?_
  have ended := (wall.nanos_of_years ⟨Int.le_refl _, Int.le_refl _⟩).2
  have sooner : yearStart (wall.date.year + 1) ≤ yearStart 0 := yearStart_mono (by omega)
  have zero : yearStart 0 < -700000 := by decide
  have nanos : wall.nanos = decimalValue digits * 1000000 + offset * second := rfl
  simp only [IsClockOffset] at clock
  simp only [dayLength, second] at ended nanos
  omega

/-! ### Canonical forms -/

section Unprefixed

variable {name : String} (noImage : ¬ imageStart.toList <+: name.toList)
  (noVideo : ¬ videoStart.toList <+: name.toList) (zone : Zone)
include noImage noVideo

private theorem not_isPrimary : (kindOfChars name.toList).isPrimary = false := by
  rw [← List.isPrefixOf_iff_prefix, Bool.not_eq_true] at noImage noVideo
  rw [kindOfChars, noImage, noVideo]
  cases thumbnailStart.toList.isPrefixOf name.toList <;> rfl

theorem regulateName_of_moment {digits : List Char} (number : IsLegacyNumber name.toList digits)
    (tells : TellsMoment digits) :
    regulateName name zone = canonicalName .image (momentOf digits) zone := by
  have read := (legacyInstant_eq_some_iff _ _).mpr ⟨digits, number, tells, rfl⟩
  rw [regulateName, regulateChars, not_isPrimary noImage noVideo, read]
  rfl

theorem regulateName_of_no_moment
    (silent : ∀ digits, IsLegacyNumber name.toList digits → ¬ TellsMoment digits) :
    regulateName name zone = name := by
  have unread : legacyInstant name.toList = none := by
    refine Option.eq_none_iff_forall_ne_some.mpr fun instant read => ?_
    obtain ⟨digits, number, tells, -⟩ := (legacyInstant_eq_some_iff _ _).mp read
    exact silent digits number tells
  rw [regulateName, regulateChars, not_isPrimary noImage noVideo, unread]
  exact String.ofList_toList

/-- A name of the oldest scheme is dated to the second of its moment, where clocks are never put
forward or back. -/
theorem captureTime_of_moment {digits : List Char} (number : IsLegacyNumber name.toList digits)
    (tells : TellsMoment digits) {offset : Int} (keeps : zone.Keeps offset)
    (clock : IsClockOffset offset) (last : ((momentOf digits).wallClock offset).date.year ≤ 9999) :
    ∃ time, captureTime name zone = some time ∧ time.offset = offset ∧
      time.instant = .ofSeconds (decimalValue digits / 1000) := by
  have years : 0 ≤ ((momentOf digits).wallClock offset).date.year ∧
      ((momentOf digits).wallClock offset).date.year ≤ 9999 := ⟨year_momentOf digits clock, last⟩
  -- the canonical name has the same time, and is left alone when it is regulated
  have same : captureTime name zone =
      captureTime (canonicalName .image (momentOf digits) zone) zone := by
    have becomes := regulateName_of_moment noImage noVideo zone number tells
    have rests := regulateChars_canonicalChars .image ((inRange_momentOf_iff digits).mpr tells.2)
      zone zone
    rw [regulateName, canonicalName, String.ofList_inj] at becomes
    rw [captureTime, captureTime, captureTimeOfChars, captureTimeOfChars, becomes, canonicalName,
      String.toList_ofList, rests]
  obtain ⟨⟨time, read, atSecond, atOffset⟩, -⟩ :=
    canonicalName_readBack .image (momentOf digits) keeps years
  refine ⟨time, same.trans read, atOffset, atSecond.trans ?_⟩
  simp only [Instant.ofSeconds, momentOf, Instant.mk.injEq, second]
  omega

end Unprefixed

end CameraRoll.Naming
