import CameraRoll.Proofs.Resolver.Search

/-!
What a save leaves behind. Main statement: `save_fresh`, that the content is stored under the first
name that is free and no other file is touched, or that nothing has changed at all.
-/

namespace CameraRoll

open CameraRoll.Naming

variable {m : Type → Type} {W : Type}

/-! ### Stores under quotas -/

/-- A store under a quota, if one is given. -/
def Store.within [Monad m] (quota : Option Nat) (store : Store m) : Store m :=
  match quota with
  | some quota => store.withQuota quota
  | none => store

theorem Store.Holds.within {store : Store (StateM W)} {part : Part W MemoryStore}
    (holds : store.Holds part) (quota : Option Nat) : (store.within quota).Holds part := by
  cases quota with
  | none => exact holds
  | some quota => exact holds.withQuota quota

theorem Store.TakenByFiles.within {store : Store (StateM W)} {part : Part W MemoryStore}
    (taken : store.TakenByFiles part) (holds : store.Holds part) (quota : Option Nat) :
    (store.within quota).TakenByFiles part := by
  cases quota with
  | none => exact taken
  | some quota => exact taken.withQuota holds quota

open Bench

/-- How a location of a bench is set up: its quota, if there is one, and what its URLs start with. -/
structure Bench.Setup where
  quota : Option Nat := none
  url : Option String := none

/-- A resolver over the stores of a bench. Without a setup there is no external location. -/
def Bench.resolver (internal : Setup) (external : Option Setup) (zone : Calendar.Zone) :
    Resolver (StateM Bench) where
  internal := (internalStore internal.url).within internal.quota
  external := external.map fun setup => (externalStore setup.url).within setup.quota
  zone := zone

theorem Bench.backs_resolver (internal : Setup) (external : Option Setup) (zone : Calendar.Zone) :
    Backs (resolver internal external zone) where
  internal := (MemoryStore.operations_holds internalPart "internal" _).within internal.quota
  external store here := by
    obtain ⟨setup, -, rfl⟩ := Option.map_eq_some_iff.mp here
    exact (MemoryStore.operations_holds externalPart "external" setup.url).within setup.quota
  taken {location store} here := by
    cases location with
    | internal =>
      obtain rfl := Option.some.inj here
      apply Store.TakenByFiles.within
      · exact MemoryStore.operations_taken internalPart "internal" internal.url
      · exact MemoryStore.operations_holds internalPart "internal" internal.url
    | external =>
      obtain ⟨setup, -, rfl⟩ := Option.map_eq_some_iff.mp here
      apply Store.TakenByFiles.within
      · exact MemoryStore.operations_taken externalPart "external" setup.url
      · exact MemoryStore.operations_holds externalPart "external" setup.url

/-! ### What a save leaves behind -/

/-- The content was stored under the first name that was free, from the one asked for on, and nothing
else has changed. -/
structure Bench.Saved (before : Bench) (location : Location) (name : String) (content : ByteArray)
    (file : StoredFile) (after : Bench) : Prop where
  place : file.location = location
  first : ∃ n, file.name = nextName^[n] name ∧ ∀ k < n, before.Has location (nextName^[k] name)
  free : ¬before.Has location file.name
  stored : ((partAt location).get after).find? file.name = some content
  size : file.size = content.size
  others : ∀ elsewhere other, (elsewhere, other) ≠ (location, file.name) →
    ((partAt elsewhere).get after).find? other = ((partAt elsewhere).get before).find? other
  around : after = before.withStores after.internal after.external

theorem Bench.find?_set_put (bench : Bench) (location elsewhere : Location) (name other : String)
    (content : ByteArray) (apart : (elsewhere, other) ≠ (location, name)) :
    ((partAt elsewhere).get ((partAt location).set
      (((partAt location).get bench).put name content) bench)).find? other =
        ((partAt elsewhere).get bench).find? other := by
  by_cases here : elsewhere = location
  · subst here
    have different : other ≠ name := fun same => apart (congrArg _ same)
    rw [Part.get_set, MemoryStore.find?_put, if_neg different]
  · rw [get_set_of_ne here]

theorem Bench.saved_of_put {bench : Bench} {location : Location} {name : String} {n : Nat}
    (earlier : ∀ k < n, bench.Has location (nextName^[k] name))
    (free : ((partAt location).get bench).find? (nextName^[n] name) = none) (content : ByteArray) :
    bench.Saved location name content ⟨location, nextName^[n] name, content.size⟩
      ((partAt location).set (((partAt location).get bench).put (nextName^[n] name) content)
        bench) where
  place := rfl
  first := ⟨n, rfl, earlier⟩
  free := by simp [Has, free]
  stored := by rw [Part.get_set, MemoryStore.find?_put_self]
  size := rfl
  others elsewhere other apart := bench.find?_set_put location elsewhere _ other content apart
  around := by cases location <;> rfl

theorem Resolver.save_absent {resolver : Resolver (StateM W)} {location : Location}
    (absent : resolver.store? location = none) (name : String) (content : ByteArray) (w : W) :
    outcome (resolver.save location name content) w = (.error (.absent location), w) := by
  rw [save, require, absent]
  rfl

/-- A save either stores the content under the first free name, or changes nothing. Without failures
in the way and without a quota it is done if there is a free name at all. -/
theorem save_fresh (internal : Setup) (external : Option Setup) (zone : Calendar.Zone)
    {bench : Bench} (sound : bench.Sound) (location : Location) (name : String)
    (content : ByteArray) :
    let resolver := Bench.resolver internal external zone
    (match outcome (resolver.save location name content) bench with
      | (.ok file, after) => bench.Saved location name content file after
      | (.error _, after) => after = bench) ∧
    ∀ label url,
      resolver.store? location = some (MemoryStore.operations (partAt location) label url) →
      ((partAt location).get bench).faults = [] → isValidName name = true →
      (∃ n, ¬bench.Has location (nextName^[n] name)) →
      ∃ file after, outcome (resolver.save location name content) bench = (.ok file, after) := by
  intro resolver
  have backs := Bench.backs_resolver internal external zone
  have regular := sound.regular.at location
  constructor
  · cases here : resolver.store? location with
    | none => rw [Resolver.save_absent here]
    | some store =>
      rcases Resolver.save_searched (backs.holds here) regular here name content with
        ⟨e, failed⟩ | ⟨n, earlier, -, free, done⟩
      · rw [failed]
      · rw [done]
        refine Bench.saved_of_put (fun k few => ?_) free content
        obtain ⟨other, refused⟩ := earlier k few
        exact backs.taken here bench _ _ other regular (sound.truthful location)
          (congrArg Prod.fst refused)
  · intro label url here clear valid free
    have accepts := MemoryStore.operations_accepts (partAt location) clear label url
    rcases Resolver.save_accepted (backs.holds here) regular accepts here valid content with
      done | ⟨-, all⟩
    · exact done
    · obtain ⟨n, free⟩ := free
      exact absurd (all n) free

/-- Under a quota of four bytes, of which one is used: two bytes are stored under the next name, and
four bytes leave no empty file behind. -/
theorem save_fresh_quota :
    let bench : Bench := { internal := { files := [("IMG.jpg", ⟨#[1]⟩)] } }
    let resolver := Bench.resolver { quota := some 4 } none (.fixed 0)
    bench.Saved .internal "IMG.jpg" ⟨#[2, 3]⟩ ⟨.internal, "IMG (1).jpg", 2⟩
      (outcome (resolver.save .internal "IMG.jpg" ⟨#[2, 3]⟩) bench).2 ∧
    (outcome (resolver.save .internal "IMG.jpg" ⟨#[2, 3, 4, 5]⟩) bench).1.isOk = false ∧
    (outcome (resolver.save .internal "IMG.jpg" ⟨#[2, 3, 4, 5]⟩) bench).2 = bench := by
  intro bench resolver
  have sound : bench.Sound :=
    { regular := ⟨⟨by simp [bench], by decide, by simp [bench]⟩, MemoryStore.regular_empty⟩
      internal := fun _ member => by cases member
      external := MemoryStore.truthful_empty }
  have saves := fun content =>
    (save_fresh { quota := some 4 } none (.fixed 0) sound .internal "IMG.jpg" content).1
  have fits : (outcome (resolver.save .internal "IMG.jpg" ⟨#[2, 3]⟩) bench).1.toOption =
      some ⟨.internal, "IMG (1).jpg", 2⟩ := by decide +kernel
  have full : (outcome (resolver.save .internal "IMG.jpg" ⟨#[2, 3, 4, 5]⟩) bench).1.isOk =
      false := by decide +kernel
  have stored := saves ⟨#[2, 3]⟩
  have refused := saves ⟨#[2, 3, 4, 5]⟩
  refine ⟨?_, full, ?_⟩
  · rcases ran : outcome (resolver.save .internal "IMG.jpg" ⟨#[2, 3]⟩) bench with
      ⟨e | file, after⟩
    · rw [ran] at fits
      cases fits
    · rw [ran] at fits
      cases fits
      rw [ran] at stored
      exact stored
  · rcases ran : outcome (resolver.save .internal "IMG.jpg" ⟨#[2, 3, 4, 5]⟩) bench with
      ⟨e | file, after⟩
    · rw [ran] at refused
      exact refused
    · rw [ran] at full
      cases full

end CameraRoll
