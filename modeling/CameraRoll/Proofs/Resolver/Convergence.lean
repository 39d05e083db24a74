import CameraRoll.Proofs.Resolver.Consent

/-!
What a second start of a session finds. Main statement: `start_converges`, that a start which got
ready leaves nothing to do for the next one, and that a migration which failed can be taken up
again.
-/

namespace CameraRoll

open CameraRoll.Calendar CameraRoll.Naming Settings

namespace Bench

open Resolver

/-- Nothing is left to do for a start on this bench: there is no outside, or everything is known to
be there, or it is there and both flags are stored although they cannot be read. -/
inductive Settled (around : Surroundings) (bench : Bench) : Prop
  | alone (absent : around.outside? = none)
      (due : bench.settings.sees consolidatedKey = false)
  | consolidated (here : ∃ outside, around.outside? = some outside)
      (consolidated : bench.settings.sees consolidatedKey = true)
  | empty (here : ∃ outside, around.outside? = some outside)
      (none : bench.internal.pictures = [])
      (consented : bench.settings.value? consentKey = some true)
      (consolidated : bench.settings.value? consolidatedKey = some true)

theorem Settled.probed {around : Surroundings} {bench : Bench} (settled : Settled around bench) :
    Settled around (bench.probed around) := by
  cases settled with
  | alone absent due => exact .alone absent (by simpa using due)
  | consolidated here consolidated => exact .consolidated here (by simpa using consolidated)
  | empty here none consented consolidated =>
    exact .empty here (by simpa using none) (by simpa using consented) (by simpa using consolidated)

section

variable {around : Surroundings} {quota : Nat} {zone : Zone} {answer : Bool} {w after : Bench}

/-- The first start with an outside that gets ready leaves no pictures inside and sets both
flags. -/
private theorem course_empties {resolver : Resolver (StateM Bench)} (regular : w.Regular)
    (course : Course (session around quota zone) answer w (.ok (.ready resolver)) after)
    (outside : resolver.hasExternal = true) (due : w.settings.sees consolidatedKey = false) :
    after.internal.pictures = [] ∧ after.settings.value? consentKey = some true ∧
      after.settings.value? consolidatedKey = some true := by
  have serves := serves_session around quota zone
  have apart : consentKey ≠ consolidatedKey := by decide
  cases course with
  | alone absent => simp [hasExternal, absent] at outside
  | consolidated _ consolidated => cases consolidated.symm.trans due
  | empty due =>
    have none : w.internal.pictures = [] := by simpa using due.pictures serves regular
    refine ⟨none, ?_, ?_⟩
    · rw [value?_flagged, if_neg apart, value?_flagged, if_pos rfl]
    · rw [value?_flagged, if_pos rfl]
  | moved due agreed done =>
    have moves := due.moves serves regular agreed done
    refine ⟨moves.success rfl, ?_, ?_⟩
    · rw [value?_flagged, if_neg apart, moves.settings]
      exact agreed.stored
    · rw [value?_flagged, if_pos rfl]

/-- A start that gets ready leaves nothing to do for the next one. -/
private theorem course_settles {resolver : Resolver (StateM Bench)} (regular : w.Regular)
    (course : Course (session around quota zone) answer w (.ok (.ready resolver)) after) :
    Settled around after := by
  have emptied {found : Bool} (due : Due (session around quota zone) w found)
      (course : Course (session around quota zone) answer w
        (.ok (.ready (session around quota zone))) after) : Settled around after := by
    obtain ⟨outside, here⟩ := due.here
    have hasExternal : (session around quota zone).hasExternal = true := by
      rw [Resolver.hasExternal, here]
      rfl
    obtain ⟨none, consented, consolidated⟩ := course_empties regular course hasExternal due.due
    exact .empty due.here none consented consolidated
  cases course with
  | alone absent due => exact .alone absent due
  | consolidated here consolidated => exact .consolidated here consolidated
  | empty due => exact emptied due (.empty due)
  | moved due agreed done => exact emptied due (.moved due agreed done)

/-- Where nothing is left to do but an outside is due, all is done but cannot be read. -/
private theorem settled_due {found : Bool} (settled : Settled around w)
    (due : Due (session around quota zone) w found) :
    w.internal.pictures = [] ∧ w.settings.value? consentKey = some true ∧
      w.settings.value? consolidatedKey = some true := by
  obtain ⟨outside, here⟩ := due.here
  cases settled with
  | alone absent => cases absent.symm.trans here
  | consolidated _ consolidated => cases consolidated.symm.trans due.due
  | empty _ none consented consolidated => exact ⟨none, consented, consolidated⟩

/-- A start that has nothing left to do gets ready, asks nobody and changes nothing. -/
private theorem settled_course {result : Except ResolverError (Initialization (StateM Bench))}
    (settled : Settled around w) (regular : w.Regular) (writable : w.settings.failingWrites = [])
    (course : Course (session around quota zone) answer w result after) :
    (∃ resolver, result = .ok (.ready resolver)) ∧ after.prompts = w.prompts ∧
      after.internal = w.internal ∧ after.external = w.external ∧
      ∀ key, after.settings.value? key = w.settings.value? key := by
  have serves := serves_session around quota zone
  -- even where the look for pictures is due again, it finds none
  have nothing {found : Bool} (due : Due (session around quota zone) w found) : found = false := by
    rw [due.pictures serves regular, (settled_due settled due).1]
    rfl
  cases course with
  | inconsistent absent consolidated =>
    cases settled with
    | alone _ due => cases consolidated.symm.trans due
    | consolidated here | empty here =>
      obtain ⟨outside, here⟩ := here
      cases absent.symm.trans here
  | alone | consolidated => exact ⟨⟨_, rfl⟩, rfl, rfl, rfl, fun _ => rfl⟩
  | unlisted looked =>
    cases looked.symm.trans (outcome_hasInternalPictures serves regular)
  | empty due =>
    -- the flags are set once more, to what they are
    obtain ⟨-, consented, consolidated⟩ := settled_due settled due
    refine ⟨⟨_, rfl⟩, rfl, rfl, rfl, fun key => ?_⟩
    rw [value?_flagged, value?_flagged]
    split
    next same => rw [same, consolidated]
    · split
      next same => rw [same, consented]
      · rfl
  | unwritten failing => exact absurd writable (List.ne_nil_of_mem failing)
  | declined due | moved due | stuck due | unmarked due => cases nothing due

/-! ### A migration that failed -/

/-- A start fails with the migration only after the consent was put on record. -/
private theorem course_stuck {cause : ResolverError} (regular : w.Regular)
    (course : Course (session around quota zone) answer w (.error (.migration cause)) after) :
    after.settings.value? consentKey = some true := by
  cases course with
  | unlisted looked =>
    cases looked.symm.trans (outcome_hasInternalPictures (serves_session around quota zone) regular)
  | stuck due agreed failed =>
    have moves := due.moves (serves_session around quota zone) regular agreed failed
    rw [moves.settings]
    exact agreed.stored

/-- With the consent on record, settings that can be read and written, and an outside that accepts
what it is given, a start asks nobody and gets ready, or searches for a free name without end. -/
private theorem course_resumes {result : Except ResolverError (Initialization (StateM Bench))}
    (regular : w.Regular) (here : ∃ outside, around.outside? = some outside)
    (clear : w.external.faults = []) (readable : w.settings.failingReads = [])
    (writable : w.settings.failingWrites = [])
    (consented : w.settings.value? consentKey = some true)
    (course : Course (session around quota zone) answer w result after) :
    after.prompts = w.prompts ∧
      ((∃ resolver, result = .ok (.ready resolver)) ∨
        ∃ name, result = .error (.migration (.noFreeName name)) ∧
          ∀ n, (after.external.find? (nextName^[n] name)).isSome = true) := by
  have serves := serves_session around quota zone
  have seen : w.settings.sees consentKey = true :=
    MemorySettings.sees_of_value? readable consented
  -- nobody is asked, so that pictures are moved on the bench as it is
  have onRecord {v : Bench} (agreed : Agreed answer w v) : v = w := by
    cases agreed with
    | onRecord => rfl
    | given unknown => cases seen.symm.trans unknown
  obtain ⟨outside, here⟩ := here
  cases course with
  | inconsistent absent | alone absent => cases absent.symm.trans here
  | consolidated => exact ⟨rfl, .inl ⟨_, rfl⟩⟩
  | unlisted looked =>
    cases looked.symm.trans (outcome_hasInternalPictures serves regular)
  | empty => exact ⟨rfl, .inl ⟨_, rfl⟩⟩
  | unwritten failing => exact absurd writable (List.ne_nil_of_mem failing)
  | declined due unknown => cases seen.symm.trans unknown
  | moved due agreed done =>
    obtain rfl := onRecord agreed
    exact ⟨(due.moves serves regular agreed done).prompts, .inl ⟨_, rfl⟩⟩
  | stuck due agreed failed =>
    obtain rfl := onRecord agreed
    have moves := due.moves serves regular agreed failed
    obtain ⟨cause, name, content, rfl, valid, refused⟩ := moves.failure _ rfl
    obtain rfl := around.eq_of_outside? here
    have accepts : (externalStore around.externalUrl).Accepts externalPart after :=
      MemoryStore.operations_accepts externalPart (moves.faults.trans clear) "external" _
    refine ⟨moves.prompts, .inr ?_⟩
    -- a store that accepts everything refuses only a search without end
    have store : (session around quota zone).store? .external = some _ := here
    rcases save_accepted (serves.external _ here) moves.regular.external accepts store valid content
      with ⟨file, after', done⟩ | ⟨searching, taken⟩
    · cases done.symm.trans refused
    · obtain rfl : ResolverError.noFreeName name = cause :=
        Except.error.inj (Prod.mk.inj (searching.symm.trans refused)).1
      exact ⟨name, rfl, taken⟩
  | unmarked due agreed done failing =>
    obtain rfl := onRecord agreed
    have moves := due.moves serves regular agreed done
    rw [moves.settings, writable] at failing
    cases failing

end

/-! ### Starts one after another -/

section Again

variable {around : Surroundings} {quota : Nat} {zone : Zone} {answer : Bool} {bench : Bench}

/-- A session that did not miss its store inside had one. -/
private theorem available_of_result
    (result : (outcome (start around quota zone answer) bench).1 ≠
      .error (.internalUnavailable (.permissionDenied "internal"))) :
    around.internalAvailable = true := by
  cases available : around.internalAvailable with
  | true => rfl
  | false =>
    refine absurd ?_ result
    rw [start_unavailable around quota zone answer available]

private theorem course_of_ready {resolver : Resolver (StateM Bench)}
    (ready : (outcome (start around quota zone answer) bench).1 = .ok (.ready resolver)) :
    around.internalAvailable = true ∧
      Course (session around quota zone) answer (bench.probed around) (.ok (.ready resolver))
        (outcome (start around quota zone answer) bench).2 := by
  have available : around.internalAvailable = true :=
    available_of_result fun missed => by cases ready.symm.trans missed
  have course := start_course around quota zone answer available bench
  rw [ready] at course
  exact ⟨available, course⟩

private theorem course_of_stuck {cause : ResolverError}
    (stuck : (outcome (start around quota zone answer) bench).1 = .error (.migration cause)) :
    Course (session around quota zone) answer (bench.probed around) (.error (.migration cause))
      (outcome (start around quota zone answer) bench).2 := by
  have available : around.internalAvailable = true :=
    available_of_result fun missed => by cases stuck.symm.trans missed
  have course := start_course around quota zone answer available bench
  rwa [stuck] at course

/-- The first start with an outside that gets ready empties the inside. -/
theorem start_empties (regular : bench.Regular) {resolver : Resolver (StateM Bench)}
    (ready : (outcome (start around quota zone answer) bench).1 = .ok (.ready resolver))
    (outside : resolver.hasExternal = true) (due : bench.settings.sees consolidatedKey = false) :
    (outcome (start around quota zone answer) bench).2.internal.pictures = [] ∧
      (outcome (start around quota zone answer) bench).2.settings.value? consentKey = some true ∧
      (outcome (start around quota zone answer) bench).2.settings.value? consolidatedKey =
        some true := by
  obtain ⟨-, course⟩ := course_of_ready ready
  refine course_empties (regular.probed around) course outside ?_
  rwa [probed_settings]

/-- After a start that got ready, the next one has nothing to do. -/
theorem start_again (regular : bench.Regular) (writable : bench.settings.failingWrites = [])
    {resolver : Resolver (StateM Bench)}
    (ready : (outcome (start around quota zone answer) bench).1 = .ok (.ready resolver))
    (quota' : Nat) (zone' : Zone) (answer' : Bool) :
    let run := outcome (start around quota zone answer) bench
    let again := outcome (start around quota' zone' answer') run.2
    (∃ resolver', again.1 = .ok (.ready resolver')) ∧ again.2.prompts = run.2.prompts ∧
      again.2.internal = run.2.internal ∧ again.2.external = run.2.external ∧
      ∀ key, again.2.settings.value? key = run.2.settings.value? key := by
  intro run again
  obtain ⟨available, first⟩ := course_of_ready ready
  have settled : Settled around (run.2.probed around) :=
    (course_settles (regular.probed around) first).probed
  have left : (run.2.probed around).Regular :=
    (start_regular around quota zone answer regular).probed around
  -- the first start has not made the settings unwritable
  have writable' : (run.2.probed around).settings.failingWrites = [] := by
    rw [probed_settings]
    exact (start_consent around quota zone answer bench).grows.writes.trans writable
  have converged := settled_course settled left writable'
    (start_course around quota' zone' answer' available run.2)
  simpa only [probed_prompts, probed_internal, probed_external, probed_settings] using converged

/-- After a start that failed while moving pictures, with nothing in the way any more, the next one
asks nobody and gets ready, or searches without end. -/
theorem start_resumes (regular : bench.Regular) {cause : ResolverError}
    (stuck : (outcome (start around quota zone answer) bench).1 = .error (.migration cause))
    {around' : Surroundings} (available : around'.internalAvailable = true)
    (here : ∃ outside, around'.outside? = some outside) (quota' : Nat) (zone' : Zone)
    (answer' : Bool) {later : Bench}
    (internal : later.internal = (outcome (start around quota zone answer) bench).2.internal)
    (external : later.external =
      { (outcome (start around quota zone answer) bench).2.external with faults := [] })
    (settings : later.settings =
      { (outcome (start around quota zone answer) bench).2.settings with
        failingReads := [], failingWrites := [] }) :
    let again := outcome (start around' quota' zone' answer') later
    again.2.prompts = later.prompts ∧
      ((∃ resolver', again.1 = .ok (.ready resolver')) ∨
        ∃ name, again.1 = .error (.migration (.noFreeName name)) ∧
          ∀ n, (again.2.external.find? (nextName^[n] name)).isSome = true) := by
  intro again
  have consented := course_stuck (regular.probed around) (course_of_stuck stuck)
  have left := start_regular around quota zone answer regular
  have regularLater : later.Regular := by
    refine ⟨internal ▸ left.internal, ?_⟩
    rw [external]
    exact ⟨left.external.distinct, left.external.valid, by simp⟩
  have resumed := course_resumes (regularLater.probed around') here
    (by rw [probed_external, external]) (by rw [probed_settings, settings])
    (by rw [probed_settings, settings]) (by rw [probed_settings, settings]; exact consented)
    (start_course around' quota' zone' answer' available later)
  simpa only [probed_prompts] using resumed

end Again

/-- Starts converge. The first one that gets ready with an outside leaves no picture inside and sets
both flags. After a start that gets ready, with settings that can be written, the next one gets
ready too, asks nobody and changes neither stores nor flags, even if flags cannot be read. After a
start that failed while moving pictures, with settings that can be used and an outside that can be
written, the next one asks nobody and gets ready, unless it searches for a free name without end. -/
theorem start_converges (around : Surroundings) (quota : Nat) (zone : Zone) (answer : Bool)
    {bench : Bench} (regular : bench.Regular) :
    let run := outcome (start around quota zone answer) bench
    (∀ resolver, run.1 = .ok (.ready resolver) → resolver.hasExternal = true →
      bench.settings.sees consolidatedKey = false →
      run.2.internal.pictures = [] ∧ run.2.settings.value? consentKey = some true ∧
        run.2.settings.value? consolidatedKey = some true) ∧
    (∀ resolver quota' zone' answer', run.1 = .ok (.ready resolver) →
      bench.settings.failingWrites = [] →
      let again := outcome (start around quota' zone' answer') run.2
      (∃ resolver', again.1 = .ok (.ready resolver')) ∧ again.2.prompts = run.2.prompts ∧
        again.2.internal = run.2.internal ∧ again.2.external = run.2.external ∧
        ∀ key, again.2.settings.value? key = run.2.settings.value? key) ∧
    ∀ cause around' quota' zone' answer' later, run.1 = .error (.migration cause) →
      around'.internalAvailable = true → (∃ outside, around'.outside? = some outside) →
      later.internal = run.2.internal → later.external = { run.2.external with faults := [] } →
      later.settings = { run.2.settings with failingReads := [], failingWrites := [] } →
      let again := outcome (start around' quota' zone' answer') later
      again.2.prompts = later.prompts ∧
        ((∃ resolver', again.1 = .ok (.ready resolver')) ∨
          ∃ name, again.1 = .error (.migration (.noFreeName name)) ∧
            ∀ n, (again.2.external.find? (nextName^[n] name)).isSome = true) := by
  refine ⟨?_, ?_, ?_⟩
  · intro resolver ready outside due
    exact start_empties regular ready outside due
  · intro resolver quota' zone' answer' ready writable
    exact start_again regular writable ready quota' zone' answer'
  · intro cause around' quota' zone' answer' later stuck available here internal external settings
    exact start_resumes regular stuck available here quota' zone' answer' internal external settings

private theorem exists_stuck (answered : Except ResolverError (Initialization (StateM Bench)))
    (stuck : (match answered with | .error (.migration _) => true | _ => false) = true) :
    ∃ cause, answered = .error (.migration cause) := by
  split at stuck
  · exact ⟨_, rfl⟩
  · cases stuck

/-- One picture inside, and an outside that refuses its name at first. The first start fails, the
second one gets ready with what is left of it, and the third one has nothing to do. -/
theorem start_converges_after_refusal :
    let around : Surroundings := { external := .present }
    let bench : Bench :=
      { internal := { files := [("IMG_1.jpg", ⟨#[1]⟩)] }
        external := MemoryStore.failWritesTo {} "IMG_1.jpg" }
    let failed := outcome (start around 9 .system true) bench
    let later : Bench :=
      { failed.2 with
        external := { failed.2.external with faults := [] }
        settings := { failed.2.settings with failingReads := [], failingWrites := [] } }
    let again := outcome (start around 9 .system false) later
    let last := outcome (start around 9 .system false) again.2
    again.2.prompts = later.prompts ∧ again.2.internal.pictures = [] ∧
      last.2.prompts = again.2.prompts := by
  intro around bench
  have regular : bench.Regular :=
    ⟨⟨by decide, by decide, by simp [bench]⟩,
      MemoryStore.Regular.failWritesTo MemoryStore.regular_empty _⟩
  have first := start_converges around 9 .system true regular
  have left := start_regular around 9 .system true regular
  have stuck := exists_stuck (outcome (start around 9 .system true) bench).1
    (by decide +kernel)
  have due : (outcome (start around 9 .system true) bench).2.settings.value? consolidatedKey =
    none := by decide +kernel
  have ready := exists_ready (outcome (start around 9 .system false)
    { (outcome (start around 9 .system true) bench).2 with
      external := { (outcome (start around 9 .system true) bench).2.external with faults := [] }
      settings := { (outcome (start around 9 .system true) bench).2.settings with
        failingReads := [], failingWrites := [] } }).1 (by decide +kernel)
  -- from here on it does not matter how the first start went on
  generalize outcome (start around 9 .system true) bench = failed at *
  intro failed' later
  have regularLater : later.Regular :=
    ⟨left.internal, left.external.distinct, left.external.valid, by simp [later]⟩
  have unset : later.settings.sees consolidatedKey = false := by
    have none : later.settings.value? consolidatedKey = none := due
    rw [MemorySettings.sees, none]
    split <;> rfl
  obtain ⟨cause, stuck⟩ := stuck
  obtain ⟨resolver, ready, outside⟩ := ready
  have resumed := first.2.2 cause around 9 .system false later stuck rfl ⟨_, rfl⟩ rfl rfl rfl
  have second := start_converges around 9 .system false regularLater
  exact ⟨resumed.1, (second.1 resolver ready outside unset).1,
    (second.2.1 resolver 9 .system false ready rfl).2.1⟩

end Bench

end CameraRoll
