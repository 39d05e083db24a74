import CameraRoll.Proofs.Catalog.Wrapping
import CameraRoll.Proofs.Resolver.Start
import CameraRoll.Proofs.Resolver.Taken

/-!
New pictures on a bench. Main statement: `store_cases`, that a new picture's file is stored as a
primary file whose name gives it a time, or nothing changes.
-/

namespace CameraRoll

open CameraRoll.Calendar CameraRoll.Naming CameraRoll.Text

/-! ### Sound benches -/

namespace Bench

/-- Both stores are as stores are made, and no failure in the way pretends that a name is taken. -/
structure Sound (bench : Bench) : Prop where
  regular : bench.Regular
  internal : bench.internal.Truthful
  external : bench.external.Truthful

namespace Sound

variable {bench : Bench} (sound : bench.Sound)
include sound

theorem truthful (location : Location) : ((partAt location).get bench).Truthful := by
  cases location with
  | internal => exact sound.internal
  | external => exact sound.external

theorem set {location : Location} {store : MemoryStore} (regular : store.Regular)
    (faults : store.faults = ((partAt location).get bench).faults) :
    ((partAt location).set store bench).Sound := by
  have truthful : store.Truthful := by
    intro fault member
    rw [faults] at member
    exact sound.truthful location fault member
  cases location with
  | internal => exact ⟨sound.regular.set regular, truthful, sound.external⟩
  | external => exact ⟨sound.regular.set regular, sound.internal, truthful⟩

theorem put (location : Location) {name : String} (valid : isValidName name = true)
    (content : ByteArray) :
    ((partAt location).set (((partAt location).get bench).put name content) bench).Sound :=
  sound.set ((sound.regular.at location).put valid content) (MemoryStore.put_faults _ _ _)

theorem erase (location : Location) (name : String) :
    ((partAt location).set (((partAt location).get bench).erase name) bench).Sound :=
  sound.set ((sound.regular.at location).erase name) (MemoryStore.erase_faults _ _)

theorem added {after : Bench} (added : ThumbnailsAdded bench after) : after.Sound where
  regular := added.regular_bench sound.regular
  internal := by
    intro fault member
    rw [added.faults] at member
    exact sound.internal fault member
  external := by
    rw [added.external]
    exact sound.external

end Sound

/-- A resolver whose locations are the stores of the bench, which refuse names as taken only where
files have them. -/
structure Backs (resolver : Resolver (StateM Bench)) : Prop extends Serves resolver where
  taken : ∀ {location store}, resolver.store? location = some store →
    store.TakenByFiles (partAt location)

theorem backs_session (around : Surroundings) (quota : Nat) (zone : Zone) :
    Backs (session around quota zone) where
  toServes := serves_session around quota zone
  taken {location store} here := by
    cases location with
    | internal =>
      obtain rfl : (session around quota zone).internal = store := Option.some.inj here
      apply Store.TakenByFiles.withQuota
      · exact MemoryStore.operations_taken internalPart "internal" around.internalUrl
      · exact MemoryStore.operations_holds internalPart "internal" around.internalUrl
    | external =>
      obtain rfl := Surroundings.eq_of_outside? here
      exact MemoryStore.operations_taken externalPart "external" around.externalUrl

/-- The clock shows a year from 0 to 8999, and there are fewer than a million million files. -/
structure InBounds (zone : Zone) (bench : Bench) : Prop where
  years : 0 ≤ (bench.now.wallClock (zone.offsetAt bench.now)).date.year ∧
    (bench.now.wallClock (zone.offsetAt bench.now)).date.year ≤ 8999
  room : bench.internal.files.length + bench.external.files.length < 10 ^ 12

namespace InBounds

variable {zone : Zone} {bench : Bench} (bounds : bench.InBounds zone)
include bounds

theorem clock : namingClock bench.now zone = bench.now.wallClock (zone.offsetAt bench.now) :=
  namingClock_of_years ⟨bounds.years.1, Int.le_trans bounds.years.2 (by decide)⟩

theorem fourDigits : InFourDigitYears (namingClock bench.now zone) := by
  rw [bounds.clock]
  exact ⟨bounds.years.1, Int.le_trans bounds.years.2 (by decide)⟩

theorem few (location : Location) : ((partAt location).get bench).files.length < 10 ^ 12 := by
  have room := bounds.room
  cases location with
  | internal =>
    change bench.internal.files.length < 10 ^ 12
    omega
  | external =>
    change bench.external.files.length < 10 ^ 12
    omega

end InBounds

end Bench

open Bench

variable {resolver : Resolver (StateM Bench)} {bench : Bench}

/-! ### New pictures -/

/-- A file under a name that is tried for a new picture is a primary file, inside and outside. -/
theorem Resolver.isPrimary_iterate (resolver : Resolver (StateM Bench)) (location : Location)
    (kind : MediaKind) {now : Instant} {zone : Zone}
    (years : InFourDigitYears (namingClock now zone)) (n size : Nat) :
    resolver.isPrimary ⟨location, nextName^[n] (canonicalName kind now zone), size⟩ = true := by
  obtain ⟨stamped, primary, picture⟩ := isPrimary_iterate_nextName kind years n
  rw [isThumbnailName] at picture
  simp only [isPrimary, StoredFile.kind, StoredFile.isThumbnail, stamped, primary, picture,
    Bool.and_self, Bool.not_false, ite_self]

/-- A new picture's file is stored under the first name of the present time that is not refused as
taken, or nothing changes. -/
theorem Library.store_searched (serves : Serves resolver) (regular : bench.Regular) (codec : Codec)
    (width : Nat) (content : ByteArray) (kind : MediaKind) :
    let library := Bench.library resolver codec width
    let home := resolver.authoritative
    let name := canonicalName kind bench.now resolver.zone
    (∃ e, outcome (library.store content kind) bench = (.error e, bench)) ∨
    ∃ store n, resolver.store? home = some store ∧
      (∀ k < n, ∃ other, outcome (store.create (nextName^[k] name) .empty) bench =
        (.error (.alreadyExists other), bench)) ∧
      isValidName (nextName^[n] name) = true ∧
      ((partAt home).get bench).find? (nextName^[n] name) = none ∧
      outcome (library.store content kind) bench =
        outcome (library.wrap ⟨home, nextName^[n] name, content.size⟩ none (some content))
          ((partAt home).set (((partAt home).get bench).put (nextName^[n] name) content) bench) := by
  intro library home name
  have clock : library.clock.run bench = (bench.now, bench) := rfl
  rw [store, outcome_bind, outcome_liftM, clock]
  dsimp only
  obtain ⟨store, here⟩ := resolver.exists_authoritative
  rcases Resolver.save_searched (serves.holds here) (regular.at home) here name content with
    ⟨e, failed⟩ | ⟨n, earlier, valid, free, done⟩
  · exact Or.inl ⟨_, outcome_bind_error (outcome_adapt_error failed _) _⟩
  · exact Or.inr ⟨store, n, here, earlier, valid, free, outcome_bind_ok (outcome_adapt_ok done _) _⟩

/-- Before the year 9000, a new picture's file is stored under the first name of the present time
that no file has, and the name gives it a time, or nothing changes. -/
theorem Library.store_placed (backs : Backs resolver) (sound : bench.Sound)
    (early : (namingClock bench.now resolver.zone).date.year < 9000)
    (few : ∀ location, ((partAt location).get bench).files.length < 10 ^ 12) (codec : Codec)
    (width : Nat) (content : ByteArray) (kind : MediaKind) :
    let library := Bench.library resolver codec width
    let home := resolver.authoritative
    let name := canonicalName kind bench.now resolver.zone
    (∃ e, outcome (library.store content kind) bench = (.error e, bench)) ∨
    ∃ n, (∀ k < n, (((partAt home).get bench).find? (nextName^[k] name)).isSome = true) ∧
      isValidName (nextName^[n] name) = true ∧
      ((partAt home).get bench).find? (nextName^[n] name) = none ∧
      (∃ time, captureTime (nextName^[n] name) resolver.zone = some time) ∧
      outcome (library.store content kind) bench =
        outcome (library.wrap ⟨home, nextName^[n] name, content.size⟩ none (some content))
          ((partAt home).set (((partAt home).get bench).put (nextName^[n] name) content) bench) := by
  intro library home name
  rcases store_searched backs.toServes sound.regular codec width content kind with
    failed | ⟨store, n, here, earlier, valid, free, done⟩
  · exact Or.inl failed
  · refine Or.inr ⟨n, fun k before => ?_, valid, free, ?_, done⟩
    · obtain ⟨other, refused⟩ := earlier k before
      exact backs.taken here bench _ _ other (sound.regular.at home) (sound.truthful home)
        (congrArg Prod.fst refused)
    -- the search ends after no more names than there are files, long before the indices run out or
    -- lead out of the calendar
    · refine exists_captureTime_iterate kind early fun first => ?_
      have years : InFourDigitYears (namingClock bench.now resolver.zone) := ⟨first, by omega⟩
      have near := (backs.taken here).index_le (sound.regular.at home) (sound.truthful home) years
        ((few home).trans (by decide)) earlier
      exact near.trans_lt ((few home).trans (by decide))

/-- A new picture's file is a primary file with a time under a name that was free, or nothing
changes. -/
theorem Library.store_cases (backs : Backs resolver) (sound : bench.Sound)
    (bounds : bench.InBounds resolver.zone) (codec : Codec) (width : Nat) (content : ByteArray)
    (kind : MediaKind) :
    let library := Bench.library resolver codec width
    let home := resolver.authoritative
    (∃ e, outcome (library.store content kind) bench = (.error e, bench)) ∨
    ∃ name, isValidName name = true ∧ ((partAt home).get bench).find? name = none ∧
      resolver.isPrimary ⟨home, name, content.size⟩ = true ∧
      captureTime name resolver.zone ≠ none ∧
      outcome (library.store content kind) bench =
        outcome (library.wrap ⟨home, name, content.size⟩ none (some content))
          ((partAt home).set (((partAt home).get bench).put name content) bench) := by
  intro library home
  have early : (namingClock bench.now resolver.zone).date.year < 9000 := by
    rw [bounds.clock]
    exact Int.lt_of_le_of_lt bounds.years.2 (by decide)
  rcases store_placed backs sound early bounds.few codec width content kind with
    failed | ⟨n, -, valid, free, ⟨time, known⟩, done⟩
  · exact Or.inl failed
  · refine Or.inr ⟨_, valid, free, ?_, ?_, done⟩
    · exact resolver.isPrimary_iterate home kind bounds.fourDigits n content.size
    · rw [known]
      exact Option.some_ne_none time

end CameraRoll
