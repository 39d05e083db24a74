import CameraRoll.Proofs.Resolver.Frame
import CameraRoll.Proofs.Resolver.Start

/-!
The user's consent to the moving of pictures. Main statement: `start_consented`, that no store
changes without consent and that nobody is asked again after having agreed, whatever the stores are
and however often a session starts.
-/

namespace CameraRoll

open CameraRoll.Calendar Settings

namespace Bench

/-! ### One start -/

theorem migrate_frame (around : Surroundings) (quota : Nat) (zone : Zone) (w : Bench) :
    (outcome (session around quota zone).migrate w).2.settings = w.settings ∧
      (outcome (session around quota zone).migrate w).2.prompts = w.prompts := by
  -- no store reaches these parts of the bench, whatever failures stand in its way
  let I (v : Bench) : Prop := v.settings = w.settings ∧ v.prompts = w.prompts
  have inside (url : Option String) : (internalStore url).Respects I fun _ => True :=
    MemoryStore.operations_respects internalPart (fun _ _ h => h) "internal" url
  have outside (url : Option String) : (externalStore url).Respects I fun _ => True :=
    MemoryStore.operations_respects externalPart (fun _ _ h => h) "external" url
  refine Resolver.keeps_migrate (I := I) (fun location store here => ?_) w ⟨rfl, rfl⟩
  cases location with
  | internal =>
    obtain rfl : (internalStore around.internalUrl).withQuota quota = store := Option.some.inj here
    exact (inside _).withQuota quota
  | external =>
    obtain rfl := Surroundings.eq_of_outside? here
    exact outside _

end Bench

namespace Resolver

open Bench

/-- What a start does about the consent of the user. -/
structure Consented (answer : Bool) (before : Bench)
    (result : Except ResolverError (Initialization (StateM Bench))) (after : Bench) : Prop where
  /-- Flags are only set. -/
  grows : before.settings.Grows after.settings
  /-- The user is asked once at most, and not with the consent on record. -/
  once : after.prompts = before.prompts ∨
    (after.prompts = before.prompts + 1 ∧ before.settings.sees consentKey = false)
  /-- The answer no is the end, and nothing has changed. -/
  no : after.prompts = before.prompts + 1 → answer = false →
    result = .ok .declined ∧ after.internal = before.internal ∧
      after.external = before.external ∧ after.settings = before.settings
  /-- The answer yes is put on record, or nothing was done. -/
  yes : after.prompts = before.prompts + 1 → answer = true →
    after.settings.value? consentKey = some true ∨ before.settings.failingWrites ≠ []
  /-- Stores change only with consent, which is on record afterwards. -/
  stores : after.internal ≠ before.internal ∨ after.external ≠ before.external →
    (before.settings.sees consentKey = true ∨
      (after.prompts = before.prompts + 1 ∧ answer = true)) ∧
    after.settings.value? consentKey = some true

variable {answer : Bool} {w after : Bench}
  {result : Except ResolverError (Initialization (StateM Bench))}

/-- Who is not asked and finds the stores as they were has nothing to complain of. -/
private theorem Consented.of_unasked (grows : w.settings.Grows after.settings)
    (prompts : after.prompts = w.prompts) (internal : after.internal = w.internal)
    (external : after.external = w.external) : Consented answer w result after where
  grows := grows
  once := .inl prompts
  no asked := absurd (prompts.symm.trans asked) (Nat.succ_ne_self _).symm
  yes asked := absurd (prompts.symm.trans asked) (Nat.succ_ne_self _).symm
  stores changed := by
    rcases changed with changed | changed
    · exact absurd internal changed
    · exact absurd external changed

/-- After the user has agreed, flags may be set and stores may change. -/
private theorem Consented.of_agreed {v : Bench} (agreed : Agreed answer w v)
    (grows : v.settings.Grows after.settings) (prompts : after.prompts = v.prompts) :
    Consented answer w result after := by
  cases agreed with
  | onRecord consented =>
    have stored := grows.stays (MemorySettings.value?_of_sees consented)
    exact
      { grows
        once := .inl prompts
        no := fun asked => absurd (prompts.symm.trans asked) (Nat.succ_ne_self _).symm
        yes := fun _ _ => .inl stored
        stores := fun _ => ⟨.inl consented, stored⟩ }
  | given unknown yes _ =>
    have stored := grows.stays (w.settings.value?_put_self consentKey true)
    exact
      { grows := (MemorySettings.Grows.put w.settings consentKey).trans grows
        once := .inr ⟨prompts, unknown⟩
        no := fun _ no => by cases yes.symm.trans no
        yes := fun _ _ => .inl stored
        stores := fun _ => ⟨.inr ⟨prompts, yes⟩, stored⟩ }

end Resolver

namespace Bench

open Resolver

private theorem course_consent {around : Surroundings} {quota : Nat} {zone : Zone} {answer : Bool}
    {w after : Bench} {result : Except ResolverError (Initialization (StateM Bench))}
    (course : Course (session around quota zone) answer w result after) :
    Consented answer w result after := by
  -- what was asked and stored before a migration is what was asked and stored after it
  have moving {v v' : Bench} {ended : Except ResolverError Unit}
      (ran : outcome (session around quota zone).migrate v = (ended, v')) :
      v'.settings = v.settings ∧ v'.prompts = v.prompts := by
    have frame := migrate_frame around quota zone v
    rwa [ran] at frame
  cases course with
  | inconsistent | alone | consolidated | unlisted => exact .of_unasked (.refl _) rfl rfl rfl
  | empty => exact .of_unasked ((MemorySettings.Grows.put _ _).trans (.put _ _)) rfl rfl rfl
  | unwritten failing early =>
    -- the user was asked only if it is the consent given now that cannot be written
    rcases early with rfl | rfl | ⟨yes, unknown, rfl⟩
    · exact .of_unasked (.refl _) rfl rfl rfl
    · exact .of_unasked (.put _ _) rfl rfl rfl
    · exact
        { grows := .refl _
          once := .inr ⟨rfl, unknown⟩
          no := fun _ no => by cases yes.symm.trans no
          yes := fun _ _ => .inr (List.ne_nil_of_mem failing)
          stores := fun changed => by simp [asked] at changed }
  | declined due unknown no =>
    exact
      { grows := .refl _
        once := .inr ⟨rfl, unknown⟩
        no := fun _ _ => ⟨rfl, rfl, rfl, rfl⟩
        yes := fun _ yes => by cases yes.symm.trans no
        stores := fun changed => by simp [asked] at changed }
  | moved due agreed done =>
    obtain ⟨settings, prompts⟩ := moving done
    refine .of_agreed agreed ?_ prompts
    exact settings ▸ MemorySettings.Grows.put _ consolidatedKey
  | stuck due agreed failed =>
    obtain ⟨settings, prompts⟩ := moving failed
    exact .of_agreed agreed (settings ▸ .refl _) prompts
  | unmarked due agreed done =>
    obtain ⟨settings, prompts⟩ := moving done
    exact .of_agreed agreed (settings ▸ .refl _) prompts

/-- What the start of a session does about the consent of the user. -/
theorem start_consent (around : Surroundings) (quota : Nat) (zone : Zone) (answer : Bool)
    (bench : Bench) :
    Consented answer bench (outcome (start around quota zone answer) bench).1
      (outcome (start around quota zone answer) bench).2 := by
  have consented : Consented answer (bench.probed around)
      (outcome (start around quota zone answer) bench).1
      (outcome (start around quota zone answer) bench).2 := by
    cases available : around.internalAvailable with
    | false =>
      rw [start_unavailable _ _ _ _ available]
      exact .of_unasked (.refl _) rfl rfl rfl
    | true => exact course_consent (start_course around quota zone answer available bench)
  exact
    { grows := by simpa using consented.grows
      once := by simpa using consented.once
      no := by simpa using consented.no
      yes := by simpa using consented.yes
      stores := by simpa using consented.stores }

end Bench

/-! ### Many starts -/

/-- One start among others: what is around it, the answer that the user has for it, and everything
else that it finds, except for the settings. -/
structure Visit where
  around : Bench.Surroundings
  quota : Nat
  zone : Zone
  answer : Bool
  bench : Bench

namespace Visit

/-- The bench after the start, with these settings before it. -/
def after (visit : Visit) (settings : MemorySettings) : Bench :=
  (outcome (Bench.start visit.around visit.quota visit.zone visit.answer)
    { visit.bench with settings := settings }).2

/-- Whether the user is asked. -/
def Asks (visit : Visit) (settings : MemorySettings) : Prop :=
  (visit.after settings).prompts = visit.bench.prompts + 1

instance (visit : Visit) (settings : MemorySettings) : Decidable (visit.Asks settings) :=
  inferInstanceAs (Decidable (_ = _))

/-- What is left of settings after one start after another. -/
def settingsAfter (visits : List Visit) (settings : MemorySettings) : MemorySettings :=
  visits.foldl (fun settings visit => (visit.after settings).settings) settings

theorem settingsAfter_grows (visits : List Visit) (settings : MemorySettings) :
    settings.Grows (settingsAfter visits settings) := by
  induction visits generalizing settings with
  | nil => exact .refl settings
  | cons visit rest ih =>
    have first := (Bench.start_consent visit.around visit.quota visit.zone visit.answer
      { visit.bench with settings := settings }).grows
    exact first.trans (ih _)

end Visit

namespace Bench

/-- No picture moves without consent, and consent is asked for once. In one start, the user is asked
once at most, the answer no leaves everything as it is, and stores change only if consent was on
record or is given now; it is on record afterwards. In many starts, with settings that can be read
and written and with whatever else in between, nobody who has agreed is asked again. -/
theorem start_consented :
    (∀ (around : Surroundings) (quota : Nat) (zone : Zone) (answer : Bool) (bench : Bench),
      let run := outcome (start around quota zone answer) bench
      (run.2.prompts = bench.prompts ∨ run.2.prompts = bench.prompts + 1) ∧
      (run.2.prompts = bench.prompts + 1 → answer = false →
        run.1 = .ok .declined ∧ run.2.internal = bench.internal ∧
          run.2.external = bench.external ∧ run.2.settings = bench.settings) ∧
      (run.2.internal ≠ bench.internal ∨ run.2.external ≠ bench.external →
        (bench.settings.sees consentKey = true ∨
          (run.2.prompts = bench.prompts + 1 ∧ answer = true)) ∧
        run.2.settings.value? consentKey = some true)) ∧
    ∀ (settings : MemorySettings) (first : Visit) (between : List Visit) (later : Visit),
      settings.failingReads = [] → settings.failingWrites = [] → first.Asks settings →
      first.answer = true → ¬ later.Asks (Visit.settingsAfter (first :: between) settings) := by
  refine ⟨fun around quota zone answer bench => ?_, ?_⟩
  · have consent := start_consent around quota zone answer bench
    exact ⟨consent.once.imp_right (·.1), consent.no, consent.stores⟩
  · intro settings first between later readable writable asked yes again
    have consent := start_consent first.around first.quota first.zone first.answer
      { first.bench with settings := settings }
    -- the consent is stored by the first start, stays, and is seen by the last one
    have grows := Visit.settingsAfter_grows between (first.after settings).settings
    have stored : (Visit.settingsAfter (first :: between) settings).value? consentKey =
        some true := by
      rcases consent.yes asked yes with stored | unwritable
      · exact grows.stays stored
      · exact absurd writable unwritable
    have reads : (Visit.settingsAfter (first :: between) settings).failingReads = [] :=
      (grows.reads.trans consent.grows.reads).trans readable
    have seen : (Visit.settingsAfter (first :: between) settings).sees consentKey = true :=
      MemorySettings.sees_of_value? reads stored
    rcases (start_consent later.around later.quota later.zone later.answer
      { later.bench with settings := _ }).once with unasked | ⟨-, unknown⟩
    · exact absurd (unasked.symm.trans again) (Nat.succ_ne_self _).symm
    · cases seen.symm.trans unknown

/-- One picture inside and a volume outside: the user declines, agrees at the next start, and is
not asked at the one after that, when there is something to move again. -/
theorem start_consented_after_declining :
    let bench : Bench := { internal := { files := [("IMG_1.jpg", ⟨#[1]⟩)] } }
    let around : Surroundings := { external := .present }
    let visit : Visit := ⟨around, 9, .system, true, bench⟩
    (outcome (start around 9 .system false) bench).1 = .ok .declined ∧
      (outcome (start around 9 .system true) bench).2.settings.value? consentKey = some true ∧
      ¬ visit.Asks (Visit.settingsAfter [visit] {}) := by
  intro bench around visit
  -- the start after an agreement has moved the picture
  have changed : (outcome (start around 9 .system true) bench).2.external ≠ bench.external := by
    intro same
    exact absurd (congrArg (·.files.length) same) (by decide +kernel)
  exact ⟨((start_consented.1 around 9 .system false bench).2.1 (by decide +kernel) rfl).1,
    ((start_consented.1 around 9 .system true bench).2.2 (.inr changed)).2,
    start_consented.2 {} visit [] visit rfl rfl (by decide +kernel) rfl⟩

end Bench

end CameraRoll
