import CameraRoll.Proofs.Resolver.Migration
import CameraRoll.Proofs.Settings.Flags

/-!
The start of a session on a bench. Main statements: `start_course`, that a start takes one of the
courses listed in `Course`, and `start_conserves`, that no picture is lost on any of them.
-/

namespace CameraRoll

open CameraRoll.Calendar

namespace Bench

/-- The volume that is probed, if the host has a suitable one. -/
def Surroundings.volume? (around : Surroundings) : Option String :=
  around.volumes.bind (·.find? Host.isSuitable)

/-- The store outside, if it can be had. -/
def Surroundings.outside? (around : Surroundings) : Option (Store (StateM Bench)) :=
  match around.volume?, around.external with
  | some _, .present => some (externalStore around.externalUrl)
  | _, _ => none

theorem Surroundings.eq_of_outside? {around : Surroundings} {outside : Store (StateM Bench)}
    (here : around.outside? = some outside) : outside = externalStore around.externalUrl := by
  unfold Surroundings.outside? at here
  split at here
  · exact (Option.some.inj here).symm
  · cases here

/-- The bench after the probe for a store outside. -/
def probed (around : Surroundings) (bench : Bench) : Bench :=
  match around.volume? with
  | some volume => { bench with opened := (volume, Host.subdirectoryOf volume) :: bench.opened }
  | none => bench

def session (around : Surroundings) (quota : Nat) (zone : Zone) : Resolver (StateM Bench) :=
  ⟨(internalStore around.internalUrl).withQuota quota, around.outside?, zone⟩

def asked (bench : Bench) : Bench := { bench with prompts := bench.prompts + 1 }

def flagged (key : String) (bench : Bench) : Bench :=
  { bench with settings := bench.settings.put key true }

/-- A flag that was set is stored, and every other one is as before. -/
theorem value?_flagged (key other : String) (bench : Bench) :
    (bench.flagged key).settings.value? other =
      if other = key then some true else bench.settings.value? other :=
  MemorySettings.value?_put bench.settings key other true

section Probe

variable (around : Surroundings) (bench : Bench)

@[simp] theorem probed_internal : (bench.probed around).internal = bench.internal := by
  unfold probed
  split <;> rfl

@[simp] theorem probed_external : (bench.probed around).external = bench.external := by
  unfold probed
  split <;> rfl

@[simp] theorem probed_settings : (bench.probed around).settings = bench.settings := by
  unfold probed
  split <;> rfl

@[simp] theorem probed_prompts : (bench.probed around).prompts = bench.prompts := by
  unfold probed
  split <;> rfl

theorem Regular.probed {bench : Bench} (regular : bench.Regular) :
    (bench.probed around).Regular := by
  refine ⟨?_, ?_⟩
  · rw [probed_internal]
    exact regular.internal
  · rw [probed_external]
    exact regular.external

theorem run_probeExternal :
    (host around).probeExternal.run bench = (around.outside?, bench.probed around) := by
  have listed : (host around).volumes = pure around.volumes := rfl
  rw [Host.probeExternal, listed, pure_bind]
  unfold Surroundings.outside? Bench.probed Surroundings.volume?
  cases around.volumes.bind (·.find? Host.isSuitable) with
  | none => rfl
  | some volume =>
    cases opening : around.external <;> (simp only [host, opening]; rfl)

end Probe

/-- The locations of a session are the stores of the bench. -/
theorem serves_session (around : Surroundings) (quota : Nat) (zone : Zone) :
    Serves (session around quota zone) where
  internal := (MemoryStore.operations_holds internalPart "internal" around.internalUrl).withQuota _
  external store here := by
    obtain rfl := Surroundings.eq_of_outside? here
    exact MemoryStore.operations_holds externalPart "external" around.externalUrl

private theorem outcome_get (key : String) (bench : Bench) :
    outcome (settingsStore.get key false) bench =
      (if key ∈ bench.settings.failingReads then .error .unreadable
        else .ok ((bench.settings.value? key).getD false), bench) := by
  have part : outcome (settingsStore.get key false) bench =
      ((outcome (MemorySettings.get key false) bench.settings).1,
        settingsPart.set (outcome (MemorySettings.get key false) bench.settings).2 bench) := rfl
  have get : outcome (MemorySettings.get key false) bench.settings =
      if key ∈ bench.settings.failingReads then (.error .unreadable, bench.settings)
      else (.ok ((bench.settings.value? key).getD false), bench.settings) := rfl
  rw [part, get]
  split <;> rfl

theorem run_flagOf (key : String) (bench : Bench) :
    (Resolver.flagOf settingsStore key).run bench = (bench.settings.sees key, bench) := by
  rw [Resolver.flagOf, StateT.run_bind, run_run, outcome_get, MemorySettings.sees]
  split <;> rfl

/-- Setting a flag fails, or sets it and does nothing else. -/
theorem outcome_setFlag (key : String) (bench : Bench) :
    outcome (Resolver.setFlag settingsStore key) bench =
      if key ∈ bench.settings.failingWrites then (.error (.settings .unwritable), bench)
      else (.ok (), bench.flagged key) := by
  have part : outcome (settingsStore.set key true) bench =
      ((outcome (MemorySettings.set key true) bench.settings).1,
        settingsPart.set (outcome (MemorySettings.set key true) bench.settings).2 bench) := rfl
  have set : outcome (MemorySettings.set key true) bench.settings =
      if key ∈ bench.settings.failingWrites then (.error .unwritable, bench.settings)
      else (.ok (), bench.settings.put key true) := rfl
  rw [Resolver.setFlag, outcome_adapt, part, set]
  split <;> rfl

end Bench

namespace Resolver

open Bench Settings

/-- The user has agreed that pictures are moved, some time ago or when asked now; the second bench
is the one after that. -/
inductive Agreed (answer : Bool) (w : Bench) : Bench → Prop
  | onRecord (consented : w.settings.sees consentKey = true) : Agreed answer w w
  | given (unknown : w.settings.sees consentKey = false) (yes : answer = true)
      (kept : consentKey ∉ w.settings.failingWrites) :
      Agreed answer w (w.asked.flagged consentKey)

theorem Agreed.stored {answer : Bool} {w v : Bench} (agreed : Agreed answer w v) :
    v.settings.value? consentKey = some true := by
  cases agreed with
  | onRecord consented => exact MemorySettings.value?_of_sees consented
  | given => exact MemorySettings.value?_put_self _ _ _

/-- There is an outside for the first time, and a look for pictures inside. -/
structure Due (resolver : Resolver (StateM Bench)) (w : Bench) (found : Bool) : Prop where
  here : ∃ outside, resolver.external = some outside
  due : w.settings.sees consolidatedKey = false
  looked : outcome resolver.hasInternalPictures w = (.ok found, w)

/-- The courses that bringing both locations into a consistent state can take, each with its answer
and the bench after it. -/
inductive Course (resolver : Resolver (StateM Bench)) (answer : Bool) (w : Bench) :
    Except ResolverError (Initialization (StateM Bench)) → Bench → Prop
  /-- All pictures were moved outside, and there is no outside. -/
  | inconsistent (absent : resolver.external = none)
      (consolidated : w.settings.sees consolidatedKey = true) :
      Course resolver answer w (.error .inconsistent) w
  /-- There is no outside. -/
  | alone (absent : resolver.external = none)
      (due : w.settings.sees consolidatedKey = false) :
      Course resolver answer w (.ok (.ready resolver)) w
  /-- All pictures were moved outside in an earlier session. -/
  | consolidated (here : ∃ outside, resolver.external = some outside)
      (consolidated : w.settings.sees consolidatedKey = true) :
      Course resolver answer w (.ok (.ready resolver)) w
  /-- The files inside cannot be listed. -/
  | unlisted {e : ResolverError} (looked : outcome resolver.hasInternalPictures w = (.error e, w)) :
      Course resolver answer w (.error e) w
  /-- There is nothing to move, so that nobody is asked. -/
  | empty (due : Due resolver w false) :
      Course resolver answer w (.ok (.ready resolver))
        ((w.flagged consentKey).flagged consolidatedKey)
  /-- A flag cannot be set before any picture was moved. -/
  | unwritten {key : String} (failing : key ∈ w.settings.failingWrites) {v : Bench}
      (early : v = w ∨ v = w.flagged consentKey ∨
        (answer = true ∧ w.settings.sees consentKey = false ∧ v = w.asked)) :
      Course resolver answer w (.error (.settings .unwritable)) v
  /-- The user does not want pictures to be moved. -/
  | declined (due : Due resolver w true) (unknown : w.settings.sees consentKey = false)
      (no : answer = false) :
      Course resolver answer w (.ok .declined) w.asked
  /-- All pictures were moved outside. -/
  | moved (due : Due resolver w true) {v v' : Bench} (agreed : Agreed answer w v)
      (done : outcome resolver.migrate v = (.ok (), v')) :
      Course resolver answer w (.ok (.ready resolver)) (v'.flagged consolidatedKey)
  /-- A picture could not be moved outside. -/
  | stuck (due : Due resolver w true) {e : ResolverError} {v v' : Bench}
      (agreed : Agreed answer w v) (failed : outcome resolver.migrate v = (.error e, v')) :
      Course resolver answer w (.error e) v'
  /-- All pictures were moved outside, but that cannot be kept. -/
  | unmarked (due : Due resolver w true) {v v' : Bench} (agreed : Agreed answer w v)
      (done : outcome resolver.migrate v = (.ok (), v'))
      (failing : consolidatedKey ∈ v'.settings.failingWrites) :
      Course resolver answer w (.error (.settings .unwritable)) v'

variable {resolver : Resolver (StateM Bench)} {answer : Bool} {w : Bench}

private theorem consolidate_course (due : Due resolver w true) {v : Bench}
    (agreed : Agreed answer w v) :
    Course resolver answer w (outcome (resolver.consolidate settingsStore) v).1
      (outcome (resolver.consolidate settingsStore) v).2 := by
  rw [consolidate, outcome_bind]
  cases migrated : outcome resolver.migrate v with
  | mk result v' =>
    cases result with
    | error e => exact .stuck due agreed migrated
    | ok _ =>
      dsimp only
      rw [outcome_bind, outcome_setFlag]
      by_cases failing : consolidatedKey ∈ v'.settings.failingWrites
      · rw [if_pos failing]
        exact .unmarked due agreed migrated failing
      · rw [if_neg failing]
        exact .moved due agreed migrated

private theorem consolidateWithConsent_course (due : Due resolver w true) :
    Course resolver answer w
      (outcome (resolver.consolidateWithConsent settingsStore (w.settings.sees consentKey)
        (Bench.prompt answer)) w).1
      (outcome (resolver.consolidateWithConsent settingsStore (w.settings.sees consentKey)
        (Bench.prompt answer)) w).2 := by
  unfold consolidateWithConsent
  cases consented : w.settings.sees consentKey with
  | true => exact consolidate_course due (.onRecord consented)
  | false =>
    rw [if_neg Bool.false_ne_true, outcome_bind, outcome_liftM]
    change Course resolver answer w (outcome (if answer = true then _ else _) w.asked).1
      (outcome (if answer = true then _ else _) w.asked).2
    cases yes : answer with
    | false => exact .declined due consented rfl
    -- the consent is put on record before anything is moved
    | true =>
      rw [if_pos rfl, outcome_bind, outcome_setFlag]
      by_cases failing : consentKey ∈ w.settings.failingWrites
      · have failing' : consentKey ∈ w.asked.settings.failingWrites := failing
        rw [if_pos failing']
        exact .unwritten failing (.inr (.inr ⟨rfl, consented, rfl⟩))
      · have kept : consentKey ∉ w.asked.settings.failingWrites := failing
        rw [if_neg kept]
        exact consolidate_course due (.given consented rfl failing)

private theorem remember_course (due : Due resolver w false) :
    let act : ExceptT ResolverError (StateM Bench) (Initialization (StateM Bench)) := do
      setFlag settingsStore consentKey
      setFlag settingsStore consolidatedKey
      return .ready resolver
    Course resolver answer w (outcome act w).1 (outcome act w).2 := by
  dsimp only
  rw [outcome_bind, outcome_setFlag]
  by_cases failing : consentKey ∈ w.settings.failingWrites
  · rw [if_pos failing]
    exact .unwritten failing (.inl rfl)
  · rw [if_neg failing]
    dsimp only
    rw [outcome_bind, outcome_setFlag]
    by_cases failing' : consolidatedKey ∈ w.settings.failingWrites
    · have refused : consolidatedKey ∈ (w.flagged consentKey).settings.failingWrites := failing'
      rw [if_pos refused]
      exact .unwritten failing' (.inr (.inl rfl))
    · have kept : consolidatedKey ∉ (w.flagged consentKey).settings.failingWrites := failing'
      rw [if_neg kept]
      exact .empty due

private theorem settle_course
    (quiet : ∀ w, (outcome resolver.hasInternalPictures w).2 = w) :
    Course resolver answer w
      (outcome (resolver.settle settingsStore (w.settings.sees consentKey)
        (w.settings.sees consolidatedKey) (Bench.prompt answer)) w).1
      (outcome (resolver.settle settingsStore (w.settings.sees consentKey)
        (w.settings.sees consolidatedKey) (Bench.prompt answer)) w).2 := by
  unfold settle
  cases here : resolver.external with
  | none =>
    rw [hasExternal, here, if_neg (by decide)]
    cases consolidated : w.settings.sees consolidatedKey with
    | true => exact .inconsistent here consolidated
    | false => exact .alone here consolidated
  | some outside =>
    rw [hasExternal, here, if_pos (by rfl)]
    cases consolidated : w.settings.sees consolidatedKey with
    | true => exact .consolidated ⟨outside, here⟩ consolidated
    | false =>
      rw [if_neg Bool.false_ne_true, outcome_bind]
      -- the look for pictures leaves the bench as it is, whether it succeeds or not
      have same := quiet w
      cases looked : outcome resolver.hasInternalPictures w with
      | mk result after =>
        rw [looked] at same
        obtain rfl : w = after := same.symm
        rcases result with e | _ | _
        · exact .unlisted looked
        · exact remember_course ⟨⟨outside, here⟩, consolidated, looked⟩
        · exact consolidateWithConsent_course ⟨⟨outside, here⟩, consolidated, looked⟩

end Resolver

namespace Bench

open Resolver

variable (around : Surroundings) (quota : Nat) (zone : Zone) (answer : Bool)

private theorem quiet_listing (w : Bench) :
    (outcome (session around quota zone).hasInternalPictures w).2 = w := by
  -- a store in memory may fail to list its files, but does not change them
  have list : Keeps (· = w) (session around quota zone).internal.list := by
    intro v same
    obtain rfl : w = v := same.symm
    have part : outcome (session around quota zone).internal.list w =
        ((outcome MemoryStore.listCall w.internal).1,
          internalPart.set (outcome MemoryStore.listCall w.internal).2 w) := rfl
    rw [part]
    simp only [outcome, MemoryStore.listCall, ExceptT.run, ExceptT.mk, StateT.run]
    split <;> rfl
  have listed : Keeps (· = w) ((session around quota zone).enumerate .internal) :=
    (list.adapt _).bind fun _ => Keeps.pure _
  exact (listed.bind fun _ => Keeps.pure _) w rfl

/-- The start of a session acquires its stores, reads the flags, and then brings both locations
into a consistent state. -/
private theorem outcome_start (bench : Bench) :
    outcome (start around quota zone answer) bench =
      if around.internalAvailable then
        outcome ((session around quota zone).settle settingsStore
          (bench.settings.sees Settings.consentKey) (bench.settings.sees Settings.consolidatedKey)
          (Bench.prompt answer)) (bench.probed around)
      else (.error (.internalUnavailable (.permissionDenied "internal")), bench.probed around) := by
  have acquired : outcome ((host around).internalStore quota) bench =
      (if around.internalAvailable then
        .ok ((internalStore around.internalUrl).withQuota quota)
        else .error (.permissionDenied "internal"), bench) := by
    simp only [host]
    split <;> rfl
  -- the probe and the flags come first, also without a store inside
  rw [start, Resolver.start, outcome_bind, outcome_liftM, run_run, acquired]
  dsimp only
  rw [outcome_bind_ok (outcome_lift (run_probeExternal around bench)),
    outcome_bind_ok (outcome_lift (run_flagOf _ _)),
    outcome_bind_ok (outcome_lift (run_flagOf _ _)), probed_settings]
  cases around.internalAvailable <;> rfl

/-- Without its store inside, a session does not start. -/
theorem start_unavailable (gone : around.internalAvailable = false) (bench : Bench) :
    outcome (start around quota zone answer) bench =
      (.error (.internalUnavailable (.permissionDenied "internal")), bench.probed around) := by
  rw [outcome_start, gone]
  rfl

/-- With its store inside, the start of a session takes one of the courses. -/
theorem start_course (available : around.internalAvailable = true) (bench : Bench) :
    Course (session around quota zone) answer (bench.probed around)
      (outcome (start around quota zone answer) bench).1
      (outcome (start around quota zone answer) bench).2 := by
  rw [outcome_start, if_pos available, ← probed_settings around bench]
  exact settle_course (quiet_listing around quota zone)

/-! ### No picture is lost -/

/-- Only the stores count for what is conserved. -/
theorem Conserves.of_stores {before before' after after' : Bench}
    (conserves : Conserves before' after') (internal : before'.internal = before.internal)
    (external : before'.external = before.external) (internal' : after'.internal = after.internal)
    (external' : after'.external = after.external) : Conserves before after where
  holdings := by
    simpa only [Bench.holdings, internal, external, internal', external'] using conserves.holdings
  external name content found := by
    rw [← external']
    rw [← external] at found
    exact conserves.external name content found

end Bench

namespace Resolver

open Bench

theorem Agreed.internal {answer : Bool} {w v : Bench} (agreed : Agreed answer w v) :
    v.internal = w.internal := by cases agreed <;> rfl

theorem Agreed.external {answer : Bool} {w v : Bench} (agreed : Agreed answer w v) :
    v.external = w.external := by cases agreed <;> rfl

theorem Agreed.regular {answer : Bool} {w v : Bench} (agreed : Agreed answer w v)
    (regular : w.Regular) : v.Regular :=
  ⟨agreed.internal ▸ regular.internal, agreed.external ▸ regular.external⟩

section Course

variable {resolver : Resolver (StateM Bench)} {answer : Bool} {w v after : Bench}
  {result : Except ResolverError (Initialization (StateM Bench))}

theorem Due.moves {found : Bool} (due : Due resolver w found) (serves : Serves resolver)
    (regular : w.Regular) (agreed : Agreed answer w v) {run : Except ResolverError Unit × Bench}
    (ran : outcome resolver.migrate v = run) : Moves resolver v [] run := by
  obtain ⟨outside, here⟩ := due.here
  exact ran ▸ migrate_moves serves here (agreed.regular regular)

theorem Due.pictures {found : Bool} (due : Due resolver w found) (serves : Serves resolver)
    (regular : w.Regular) : found = decide (w.internal.pictures ≠ []) :=
  Except.ok.inj (Prod.mk.inj (due.looked.symm.trans
    (outcome_hasInternalPictures serves regular))).1

/-- On every course, everything is conserved. -/
theorem Course.conserves (serves : Serves resolver) (regular : w.Regular)
    (course : Course resolver answer w result after) : Conserves w after := by
  have same := Conserves.refl w
  cases course with
  | inconsistent | alone | consolidated | unlisted => exact same
  | empty | declined => exact same.of_stores rfl rfl rfl rfl
  | unwritten failing early =>
    rcases early with rfl | rfl | ⟨-, -, rfl⟩ <;> exact same.of_stores rfl rfl rfl rfl
  | moved due agreed done | unmarked due agreed done =>
    exact (due.moves serves regular agreed done).conserves.of_stores agreed.internal agreed.external
      rfl rfl
  | stuck due agreed failed =>
    exact (due.moves serves regular agreed failed).conserves.of_stores agreed.internal
      agreed.external rfl rfl

theorem Course.regular (serves : Serves resolver) (regular : w.Regular)
    (course : Course resolver answer w result after) : after.Regular := by
  have same : w.Regular := regular
  cases course with
  | inconsistent | alone | consolidated | unlisted => exact same
  | empty | declined => exact ⟨same.internal, same.external⟩
  | unwritten failing early =>
    rcases early with rfl | rfl | ⟨-, -, rfl⟩ <;> exact ⟨same.internal, same.external⟩
  | moved due agreed done =>
    have moved := (due.moves serves regular agreed done).regular
    exact ⟨moved.internal, moved.external⟩
  | stuck due agreed failed => exact (due.moves serves regular agreed failed).regular
  | unmarked due agreed done => exact (due.moves serves regular agreed done).regular

end Course

end Resolver

namespace Bench

theorem start_regular (around : Surroundings) (quota : Nat) (zone : Zone) (answer : Bool)
    {bench : Bench} (regular : bench.Regular) :
    (outcome (start around quota zone answer) bench).2.Regular := by
  cases available : around.internalAvailable with
  | false =>
    rw [start_unavailable _ _ _ _ available]
    exact regular.probed around
  | true =>
    exact (start_course around quota zone answer available bench).regular
      (serves_session around quota zone) (regular.probed around)

/-- However the start of a session ends, with one of both answers or with an error, also half-way
through, and in whichever order the pictures are listed and so taken: what is inside without being a
thumbnail and what is outside is the same in the end, and every file that was outside is still there
as it was. -/
theorem start_conserves (around : Surroundings) (quota : Nat) (zone : Zone) (answer : Bool)
    {bench : Bench} (regular : bench.Regular) :
    Conserves bench (outcome (start around quota zone answer) bench).2 := by
  -- the probe is no change to the stores
  have conserves : Conserves (bench.probed around)
      (outcome (start around quota zone answer) bench).2 := by
    cases available : around.internalAvailable with
    | false =>
      rw [start_unavailable _ _ _ _ available]
      exact .refl _
    | true =>
      exact (start_course around quota zone answer available bench).conserves
        (serves_session around quota zone) (regular.probed around)
  exact conserves.of_stores (by simp) (by simp) rfl rfl

/-- An answer that can be seen to be ready. -/
theorem exists_ready (answered : Except ResolverError (Initialization (StateM Bench)))
    (done : (match answered with
      | .ok (.ready resolver) => resolver.hasExternal
      | _ => false) = true) :
    ∃ resolver, answered = .ok (.ready resolver) ∧ resolver.hasExternal = true := by
  split at done
  · exact ⟨_, rfl, done⟩
  · cases done

/-- A migration that stops at its second picture: a video cannot be written outside. -/
theorem start_conserves_halfway :
    let bench : Bench :=
      { internal := { files := [("IMG_20240102_030405.jpg", ⟨#[1]⟩), ("VID_1.mp4", ⟨#[2]⟩),
          ("thumb-VID_1.jpg", ⟨#[3]⟩)] }
        external := MemoryStore.failWritesTo
          { files := [("IMG_20240102_030405.jpg", ⟨#[4]⟩)] } "VID_1.mp4" }
    let run := outcome (start { external := .present } 5 .system true) bench
    bench.Regular ∧ Conserves bench run.2 ∧
      run.2.internal.files.map (·.1) = ["VID_1.mp4", "thumb-VID_1.jpg"] ∧
      run.2.external.files.map (·.1) =
        ["IMG_20240102_030405.jpg", "IMG_20240102_030405 (1).jpg"] := by
  intro bench run
  have regular : bench.Regular :=
    ⟨⟨by decide, by decide, by simp [bench]⟩,
      MemoryStore.Regular.failWritesTo ⟨by decide, by decide, by simp⟩ _⟩
  exact ⟨regular, start_conserves { external := .present } 5 .system true regular,
    by decide +kernel, by decide +kernel⟩

end Bench

end CameraRoll
