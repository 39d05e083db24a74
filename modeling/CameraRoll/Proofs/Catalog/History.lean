import CameraRoll.Proofs.Catalog.Frame
import CameraRoll.Proofs.Naming.Derived
import CameraRoll.Proofs.Resolver.Consent

/-!
Histories of sessions on a bench. Main statement: `consolidated_inside`, that there are only
thumbnails inside in every state of a history in which all pictures are known to be outside.
-/

namespace CameraRoll

open CameraRoll.Calendar CameraRoll.Naming Settings

/-! ### Sessions -/

/-- What can be asked of a catalog that touches the stores. -/
inductive Command where
  | load
  | save (content : ByteArray) (kind : MediaKind)
  | delete (picture : Picture) (gone : Bool)
  | checkLast
  | copyOut (picture : Picture) (target : String)

namespace Command

variable {m : Type → Type} [Monad m]

/-- The operation of a command. Answers do not matter for what comes next. -/
def perform (library : Library m) : Command → Library.Action m Unit
  | .load => library.load
  | .save content kind => do let _ ← library.save content kind
  | .delete picture gone => library.delete picture gone
  | .checkLast => do let _ ← library.checkLast
  | .copyOut picture target => library.copyOut picture target

/-- No command breaks what its library respects. -/
theorem perform_spares {W : Type} {I : W → Prop} {names : Location → String → Prop}
    {library : Library (StateM W)} (respects : library.Respects I names) (command : Command) :
    Library.Spares I (command.perform library) := by
  cases command with
  | load => exact Library.keeps_load respects
  | save content kind =>
    exact (Library.keeps_save respects content kind).bind fun _ => Library.Spares.pure _
  | delete picture gone => exact Library.keeps_delete respects picture gone
  | checkLast => exact (Library.keeps_checkLast respects).bind fun _ => Library.Spares.pure _
  | copyOut picture target => exact Library.keeps_copyOut respects picture target

end Command

namespace Bench

/-- A session that got ready, with its catalog. -/
structure Session where
  resolver : Resolver (StateM Bench)
  codec : Codec
  width : Nat
  catalog : Catalog

namespace Session

/-- The library of a session. -/
def library (session : Session) : Library (StateM Bench) :=
  Bench.library session.resolver session.codec session.width

/-- The session that a start opens, if it gets ready. -/
def opened (codec : Codec) (width : Nat) (catalog : Catalog) :
    Except ResolverError (Initialization (StateM Bench)) → Option Session
  | .ok (.ready resolver) => some ⟨resolver, codec, width, catalog⟩
  | _ => none

/-- The session after a command. -/
def after (session : Session) (command : Command) (bench : Bench) : Session :=
  { session with
    catalog := (Library.performed (command.perform session.library) session.catalog bench).1.2 }

end Session

/-- Nobody has touched the files in both stores or the flags in the settings. Other things may have
changed, such as the time and which names cannot be written. -/
structure Untouched (before after : Bench) : Prop where
  regular : after.Regular
  internal : after.internal.files = before.internal.files
  external : after.external.files = before.external.files
  flags : after.settings.values = before.settings.values
  readable : after.settings.failingReads = []

/-- The states of a bench between operations, each with the session that runs, in histories that
begin with empty settings and with any files. -/
inductive History : Bench → Option Session → Prop
  | beginning {bench : Bench} (regular : bench.Regular) (empty : bench.settings.values = [])
      (readable : bench.settings.failingReads = []) : History bench none
  | start {bench : Bench} {session : Option Session} (past : History bench session)
      (around : Surroundings) (quota : Nat) (zone : Zone) (answer : Bool) (codec : Codec)
      (width : Nat) (catalog : Catalog) :
      History (outcome (Bench.start around quota zone answer) bench).2
        (Session.opened codec width catalog
          (outcome (Bench.start around quota zone answer) bench).1)
  | command {bench : Bench} {session : Session} (past : History bench (some session))
      (command : Command) :
      History (Library.performed (command.perform session.library) session.catalog bench).2
        (some (session.after command bench))
  | meanwhile {bench after : Bench} {session : Option Session} (past : History bench session)
      (untouched : Untouched bench after) : History after session

/-! ### What a history keeps -/

/-- With all pictures known to be outside, there are only thumbnails inside, and sessions have an
outside. -/
structure Consolidated (bench : Bench) (session : Option Session) : Prop where
  regular : bench.Regular
  readable : bench.settings.failingReads = []
  inside : bench.settings.value? consolidatedKey = some true → bench.internal.pictures = []
  made : ∀ running ∈ session, ∃ around quota zone,
    running.resolver = Bench.session around quota zone
  outside : ∀ running ∈ session, bench.settings.value? consolidatedKey = some true →
    running.resolver.hasExternal = true

section Start

open Resolver

variable {around : Surroundings} {quota : Nat} {zone : Zone} {answer : Bool} {w after : Bench}
  {result : Except ResolverError (Initialization (StateM Bench))}

private theorem course_consolidates (regular : w.Regular) (readable : w.settings.failingReads = [])
    (inside : w.settings.value? consolidatedKey = some true → w.internal.pictures = [])
    (course : Course (Bench.session around quota zone) answer w result after) :
    (after.settings.value? consolidatedKey = some true → after.internal.pictures = []) ∧
      ∀ resolver, result = .ok (.ready resolver) →
        resolver = Bench.session around quota zone ∧
          (after.settings.value? consolidatedKey = some true → resolver.hasExternal = true) := by
  have serves := serves_session around quota zone
  have apart : consolidatedKey ≠ consentKey := by decide
  -- with settings that can be read, a flag that is not seen is not stored
  have unset {settings : MemorySettings} (same : settings.value? consolidatedKey =
      w.settings.value? consolidatedKey) (due : w.settings.sees consolidatedKey = false) :
      settings.value? consolidatedKey ≠ some true := by
    intro stored
    have seen := MemorySettings.sees_of_value? readable (same.symm.trans stored)
    cases seen.symm.trans due
  have hasExternal (here : ∃ outside, (Bench.session around quota zone).external = some outside) :
      (Bench.session around quota zone).hasExternal = true := by
    obtain ⟨outside, here⟩ := here
    rw [Resolver.hasExternal, here]
    rfl
  have agreedFlag {v : Bench} (agreed : Agreed answer w v) :
      v.settings.value? consolidatedKey = w.settings.value? consolidatedKey := by
    cases agreed with
    | onRecord => rfl
    | given => exact (value?_flagged _ _ _).trans (if_neg apart)
  cases course with
  | inconsistent => exact ⟨inside, fun _ ready => by cases ready⟩
  -- a session may get ready without an outside, but only as long as the flag is not stored
  | alone absent due =>
    refine ⟨inside, fun resolver ready => ?_⟩
    cases ready
    exact ⟨rfl, fun stored => absurd stored (unset rfl due)⟩
  | consolidated here =>
    refine ⟨inside, fun resolver ready => ?_⟩
    cases ready
    exact ⟨rfl, fun _ => hasExternal here⟩
  | unlisted => exact ⟨inside, fun _ ready => by cases ready⟩
  | empty due =>
    have none : w.internal.pictures = [] := by simpa using due.pictures serves regular
    refine ⟨fun _ => none, fun resolver ready => ?_⟩
    cases ready
    exact ⟨rfl, fun _ => hasExternal due.here⟩
  | unwritten failing early =>
    refine ⟨?_, fun _ ready => by cases ready⟩
    rcases early with rfl | rfl | ⟨-, -, rfl⟩
    · exact inside
    · rw [value?_flagged, if_neg apart]
      exact inside
    · exact inside
  | declined => exact ⟨inside, fun _ ready => by cases ready⟩
  | moved due agreed done =>
    have moves := due.moves serves regular agreed done
    refine ⟨fun _ => moves.success rfl, fun resolver ready => ?_⟩
    cases ready
    exact ⟨rfl, fun _ => hasExternal due.here⟩
  -- with some pictures left inside, the flag is still as it was found
  | stuck due agreed failed =>
    have moves := due.moves serves regular agreed failed
    refine ⟨fun stored => absurd stored (unset ?_ due.due), fun _ ready => by cases ready⟩
    rw [moves.settings]
    exact agreedFlag agreed
  | unmarked due agreed done =>
    have moves := due.moves serves regular agreed done
    refine ⟨fun stored => absurd stored (unset ?_ due.due), fun _ ready => by cases ready⟩
    rw [moves.settings]
    exact agreedFlag agreed

end Start

section Session

/-- What commands keep: the settings, and that nothing but thumbnails is inside if that is how it
should be. -/
structure Kept (first : MemorySettings) (bench : Bench) : Prop where
  internal : bench.internal.Regular
  external : bench.external.Regular
  settings : bench.settings = first
  inside : first.value? consolidatedKey = some true → bench.internal.pictures = []

/-- The names under which files are stored in each location: inside only those of thumbnails, if
all pictures are outside. -/
def NamesFor (settings : MemorySettings) : Location → String → Prop
  | .internal, name =>
    settings.value? consolidatedKey = some true → isThumbnailName name = true
  | .external, _ => True

variable {settings : MemorySettings}

private theorem session_respects (around : Surroundings) (quota : Nat) (zone : Zone) :
    (Bench.session around quota zone).Respects (Kept settings) (NamesFor settings) := by
  have serves := serves_session around quota zone
  intro location store here
  cases location with
  | internal =>
    obtain rfl : (Bench.session around quota zone).internal = store := Option.some.inj here
    refine serves.internal.respects (fun _ h => h.internal) ?_ ?_
    -- what is stored inside is a thumbnail, and what is erased leaves no new picture
    · intro w name content h named valid
      refine ⟨h.internal.put valid content, h.external, h.settings, fun stored => ?_⟩
      exact (MemoryStore.pictures_put (named stored) content).trans (h.inside stored)
    · intro w name h
      refine ⟨h.internal.erase name, h.external, h.settings, fun stored => ?_⟩
      change (w.internal.erase name).pictures = []
      rw [MemoryStore.pictures_erase, h.inside stored]
      rfl
  | external =>
    exact (serves.external store here).respects (fun _ h => h.external)
      (fun w name content h _ valid => ⟨h.internal, h.external.put valid content, h.settings,
        h.inside⟩)
      fun w name h => ⟨h.internal, h.external.erase name, h.settings, h.inside⟩

private theorem library_respects (around : Surroundings) (quota : Nat) (zone : Zone) (codec : Codec)
    (width : Nat) (outside : settings.value? consolidatedKey = some true →
      (Bench.session around quota zone).hasExternal = true) :
    (Bench.library (Bench.session around quota zone) codec width).Respects (Kept settings)
      (NamesFor settings) where
  resolver := session_respects around quota zone
  thumbnails name n _ := isThumbnailName_iterate_nextName (isThumbnailName_thumbnailName name) n
  pictures name := by
    change NamesFor settings (Bench.session around quota zone).authoritative name
    rw [Resolver.authoritative]
    split
    · exact trivial
    next absent => exact fun stored => absurd (outside stored) absent
  clock _ h := h
  inspect _ _ h := ⟨h.internal, h.external, h.settings, h.inside⟩
  write _ _ _ h := ⟨h.internal, h.external, h.settings, h.inside⟩

end Session

namespace Consolidated

variable {bench after : Bench} {session : Option Session}

/-- The start of a session. -/
theorem start (past : Consolidated bench session) (around : Surroundings) (quota : Nat)
    (zone : Zone) (answer : Bool) (codec : Codec) (width : Nat) (catalog : Catalog) :
    Consolidated (outcome (Bench.start around quota zone answer) bench).2
      (Session.opened codec width catalog
        (outcome (Bench.start around quota zone answer) bench).1) := by
  have grows := (start_consent around quota zone answer bench).grows
  have regular := start_regular around quota zone answer past.regular
  cases available : around.internalAvailable with
  -- without an inside there is no session, and the outside was all that was looked for
  | false =>
    rw [start_unavailable _ _ _ _ available]
    exact
      { regular := past.regular.probed around
        readable := by rw [probed_settings]; exact past.readable
        inside := by simpa using past.inside
        made := fun _ opened => by cases opened
        outside := fun _ opened => by cases opened }
  | true =>
    have course := start_course around quota zone answer available bench
    obtain ⟨inside, ready⟩ := course_consolidates (past.regular.probed around)
      (by rw [probed_settings]; exact past.readable) (by simpa using past.inside) course
    have opened : ∀ running ∈ Session.opened codec width catalog
        (outcome (Bench.start around quota zone answer) bench).1,
        (outcome (Bench.start around quota zone answer) bench).1 =
          .ok (.ready running.resolver) := by
      intro running isOpened
      unfold Session.opened at isOpened
      split at isOpened
      next same => cases isOpened; exact same
      · cases isOpened
    exact
      { regular
        readable := grows.reads.trans past.readable
        inside
        made := fun running isOpened =>
          ⟨around, quota, zone, (ready _ (opened running isOpened)).1⟩
        outside := fun running isOpened => (ready _ (opened running isOpened)).2 }

/-- A command of the session that runs. -/
theorem command {running : Session} (past : Consolidated bench (some running))
    (command : Command) :
    Consolidated (Library.performed (command.perform running.library) running.catalog bench).2
      (some (running.after command bench)) := by
  obtain ⟨around, quota, zone, made⟩ := past.made running rfl
  have outside := past.outside running rfl
  -- commands do not touch the flags, so that the names for files are the same before and after
  have respects : running.library.Respects (Kept bench.settings) (NamesFor bench.settings) := by
    rw [made] at outside
    rw [Session.library, made]
    exact library_respects around quota zone running.codec running.width outside
  have kept := Command.perform_spares respects command running.catalog bench
    ⟨past.regular.internal, past.regular.external, rfl, past.inside⟩
  exact
    { regular := ⟨kept.internal, kept.external⟩
      readable := by rw [kept.settings]; exact past.readable
      inside := by rw [kept.settings]; exact kept.inside
      made := fun _ same => ⟨around, quota, zone, by cases same; exact made⟩
      outside := fun _ same => by cases same; rw [kept.settings]; exact outside }

theorem meanwhile (past : Consolidated bench session) (untouched : Untouched bench after) :
    Consolidated after session := by
  have flags (key : String) : after.settings.value? key = bench.settings.value? key :=
    congrArg (List.lookup key) untouched.flags
  exact
    { regular := untouched.regular
      readable := untouched.readable
      inside := by
        rw [flags, MemoryStore.pictures, untouched.internal]
        exact past.inside
      made := past.made
      outside := by
        rw [flags]
        exact past.outside }

end Consolidated

theorem History.consolidated {bench : Bench} {session : Option Session}
    (history : History bench session) : Consolidated bench session := by
  -- every way in which a history goes on keeps the invariant
  induction history with
  | beginning regular empty readable =>
    have unset : MemorySettings.value? _ consolidatedKey = none :=
      congrArg (List.lookup consolidatedKey) empty
    exact
      { regular
        readable
        inside := fun stored => by cases unset.symm.trans stored
        made := fun _ running => by cases running
        outside := fun _ running => by cases running }
  | start past around quota zone answer codec width catalog ih =>
    exact ih.start around quota zone answer codec width catalog
  | command past command ih => exact ih.command command
  | meanwhile past untouched ih => exact ih.meanwhile untouched

/-- Once all pictures are known to be outside, there are only thumbnails inside, in every state
between the operations of every history of sessions. -/
theorem consolidated_inside {bench : Bench} {session : Option Session}
    (history : History bench session)
    (consolidated : bench.settings.value? consolidatedKey = some true) :
    ∀ file ∈ bench.internal.files, kindOf file.1 = .thumbnail := by
  intro file member
  have none := List.filter_eq_nil_iff.mp (history.consolidated.inside consolidated)
  have isThumbnail : isThumbnailName file.1 = true := by simpa using none file member
  cases kind : kindOf file.1 with
  | thumbnail => rfl
  | _ => simp [isThumbnailName, kind, NameKind.isThumbnail] at isThumbnail

/-- A picture and its thumbnail inside, before the first start with an outside. -/
theorem consolidated_inside_after_start :
    let bench : Bench :=
      { internal := { files := [("IMG_1.jpg", ⟨#[1]⟩), ("thumb-IMG_1.jpg", ⟨#[2]⟩)] } }
    let run := outcome (start { external := .present } 9 .system true) bench
    run.2.internal.files.map (·.1) = ["thumb-IMG_1.jpg"] ∧
      ∀ file ∈ run.2.internal.files, kindOf file.1 = .thumbnail := by
  intro bench run
  have regular : bench.Regular :=
    ⟨⟨by decide, by decide, by simp [bench]⟩, MemoryStore.regular_empty⟩
  have history : History run.2 (Session.opened (markingCodec true) 64 {} run.1) :=
    .start (.beginning regular rfl rfl) { external := .present } 9 .system true _ _ _
  exact ⟨by decide +kernel, consolidated_inside history (by decide +kernel)⟩

end Bench

end CameraRoll
