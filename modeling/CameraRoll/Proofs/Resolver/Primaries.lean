import CameraRoll.Proofs.Resolver.Migration

/-!
The primary files of a bench. Main statements: `outcome_entries`, what a resolver finds to make a
catalog from, and `primaries_put`, `primaries_erase` and `primaries_eq`, what becomes of the primary
files when a file is stored or erased among them, and when only thumbnails change.
-/

namespace CameraRoll

open CameraRoll.Naming

namespace Bench

/-! ### Locations -/

def partAt : Location → Part Bench MemoryStore
  | .internal => internalPart
  | .external => externalPart

variable {bench : Bench}

/-- A change at one location leaves the other one. -/
theorem get_set_of_ne {location other : Location} (apart : other ≠ location) (store : MemoryStore)
    (bench : Bench) :
    (partAt other).get ((partAt location).set store bench) = (partAt other).get bench := by
  cases other with
  | internal =>
    cases location with
    | internal => exact absurd rfl apart
    | external => rfl
  | external =>
    cases location with
    | internal => rfl
    | external => exact absurd rfl apart

theorem Regular.at (regular : bench.Regular) (location : Location) :
    ((partAt location).get bench).Regular := by
  cases location with
  | internal => exact regular.internal
  | external => exact regular.external

theorem Regular.set (regular : bench.Regular) {location : Location} {store : MemoryStore}
    (changed : store.Regular) : ((partAt location).set store bench).Regular := by
  cases location with
  | internal => exact ⟨changed, regular.external⟩
  | external => exact ⟨regular.internal, changed⟩

theorem Serves.holds {resolver : Resolver (StateM Bench)} (serves : Serves resolver)
    {location : Location} {store : Store (StateM Bench)}
    (here : resolver.store? location = some store) : store.Holds (partAt location) := by
  cases location with
  | internal =>
    obtain rfl : resolver.internal = store := Option.some.inj here
    exact serves.internal
  | external => exact serves.external store here

/-- The files at a location. -/
def filesAt (bench : Bench) (location : Location) : List StoredFile :=
  ((partAt location).get bench).files.map fun file => ⟨location, file.1, file.2.size⟩

end Bench

namespace Resolver

open Bench

variable {resolver : Resolver (StateM Bench)} {w : Bench}

/-! ### Entries -/

def primaries (resolver : Resolver (StateM Bench)) (bench : Bench) : List StoredFile :=
  (bench.filesAt resolver.authoritative).filter resolver.isPrimary

theorem outcome_enumerate (serves : Serves resolver) (regular : w.Regular) {location : Location}
    {store : Store (StateM Bench)} (here : resolver.store? location = some store) :
    outcome (resolver.enumerate location) w = (.ok (w.filesAt location), w) := by
  have listed := (serves.holds here).list w (regular.at location)
  unfold enumerate
  rw [here]
  dsimp only
  rw [storing, outcome_bind_ok (outcome_adapt_ok listed ResolverError.storage), outcome_pure,
    List.map_map]
  rfl

theorem outcome_entries (serves : Serves resolver) (regular : w.Regular) :
    outcome resolver.entries w =
      (.ok ⟨resolver.primaries w, (w.filesAt .internal).filter (·.isThumbnail)⟩, w) := by
  have inside : outcome (resolver.enumerate .internal) w = (.ok (w.filesAt .internal), w) :=
    outcome_enumerate serves regular rfl
  rw [entries, outcome_bind_ok inside]
  -- without a location outside, the primary files are looked for inside
  cases outside : resolver.external with
  | some store =>
    have beside : outcome (resolver.enumerate .external) w = (.ok (w.filesAt .external), w) :=
      outcome_enumerate serves regular outside
    rw [outcome_bind_ok beside]
    simp [primaries, authoritative, hasExternal, outside]
  | none =>
    have nothing : outcome (resolver.enumerate .external) w = (.ok [], w) := by
      simp [enumerate, store?, outside]
    rw [outcome_bind_ok nothing]
    simp [primaries, authoritative, hasExternal, outside]

theorem primaries_location {file : StoredFile} (member : file ∈ resolver.primaries w) :
    file.location = resolver.authoritative := by
  obtain ⟨file, -, rfl⟩ := List.mem_map.mp (List.mem_filter.mp member).1
  rfl

theorem stored_of_primary (regular : w.Regular) {file : StoredFile}
    (member : file ∈ resolver.primaries w) :
    (((partAt file.location).get w).find? file.name).isSome = true := by
  obtain ⟨stored, isStored, rfl⟩ := List.mem_map.mp (List.mem_filter.mp member).1
  have distinct := (regular.at resolver.authoritative).distinct
  exact Option.isSome_iff_exists.mpr ⟨stored.2, MemoryStore.find?_of_mem distinct isStored⟩

/-! ### Single files -/

/-- A file is erased, or nothing changes. -/
theorem remove_cases (serves : Serves resolver) (regular : w.Regular) (file : StoredFile) :
    (∃ e, outcome (resolver.remove file) w = (.error e, w)) ∨
    outcome (resolver.remove file) w = (.ok (),
      (partAt file.location).set (((partAt file.location).get w).erase file.name) w) := by
  unfold remove require
  split
  next store here =>
    rw [pure_bind]
    have holds := serves.holds here
    cases found : ((partAt file.location).get w).find? file.name with
    | none =>
      obtain ⟨-, ⟨e, failed⟩, -⟩ := holds.missing w file.name (regular.at _) found
      exact Or.inl ⟨_, outcome_adapt_error failed _⟩
    | some content =>
      exact Or.inr (outcome_adapt_ok (holds.delete w file.name content (regular.at _) found) _)
  · exact Or.inl ⟨_, rfl⟩

theorem contains_valid (serves : Serves resolver) (regular : w.Regular) {file : StoredFile}
    (here : file.location = resolver.authoritative) (valid : isValidName file.name = true) :
    outcome (resolver.contains file) w =
      (.ok (((partAt file.location).get w).find? file.name).isSome, w) := by
  obtain ⟨store, isStore⟩ := exists_authoritative resolver
  have there := regular.at file.location
  rw [← here] at isStore
  unfold contains
  rw [isStore]
  rcases (serves.holds isStore).contains w file.name there with answered | ⟨invalid, -⟩
  · exact outcome_adapt_ok answered _
  · cases invalid.symm.trans valid

theorem contains_stored (serves : Serves resolver) (regular : w.Regular) {file : StoredFile}
    (here : file.location = resolver.authoritative)
    (stored : (((partAt file.location).get w).find? file.name).isSome = true) :
    outcome (resolver.contains file) w = (.ok true, w) := by
  obtain ⟨content, found⟩ := Option.isSome_iff_exists.mp stored
  have valid := (regular.at file.location).isValidName_of_find? found
  rw [contains_valid serves regular here valid, stored]

theorem contains_primary (serves : Serves resolver) (regular : w.Regular) {file : StoredFile}
    (member : file ∈ resolver.primaries w) :
    outcome (resolver.contains file) w = (.ok true, w) := by
  exact contains_stored serves regular (primaries_location member) (stored_of_primary regular member)

/-! ### Changes -/

theorem primaries_apart (regular : w.Regular) :
    (resolver.primaries w).Pairwise fun a b => a.isSame b = false := by
  have distinct := (regular.at resolver.authoritative).distinct
  -- all of them are in one location, whose files have different names
  refine List.Pairwise.filter _ (List.pairwise_map.mpr ((List.pairwise_map.mp distinct).imp ?_))
  intro a b apart
  simp [StoredFile.isSame, apart]

/-- Inside, the primary files are the pictures. -/
theorem primaries_internal (alone : resolver.external = none) (w : Bench) :
    resolver.primaries w =
      w.internal.pictures.map fun file => ⟨.internal, file.1, file.2.size⟩ := by
  have inside : resolver.authoritative = .internal := by simp [authoritative, hasExternal, alone]
  have primary : ∀ file : StoredFile, resolver.isPrimary file = !isThumbnailName file.name := by
    intro file
    simp [isPrimary, hasExternal, alone, StoredFile.isThumbnail, StoredFile.kind, isThumbnailName]
  rw [primaries, inside, Bench.filesAt, List.filter_map]
  simp only [Function.comp_def, primary]
  rfl

/-- Where only thumbnails change, and only inside, the primary files stay. -/
theorem primaries_eq {after : Bench} (external : after.external.files = w.external.files)
    (pictures : after.internal.pictures = w.internal.pictures) :
    resolver.primaries after = resolver.primaries w := by
  cases outside : resolver.external with
  | none => rw [primaries_internal outside, primaries_internal outside, pictures]
  | some store =>
    have beside : resolver.authoritative = .external := by
      simp [authoritative, hasExternal, outside]
    have files : (externalPart.get after).files = (externalPart.get w).files := external
    rw [primaries, primaries, beside, Bench.filesAt, Bench.filesAt, partAt, files]

/-- A primary file that is stored under a free name comes last. -/
theorem primaries_put {name : String} {content : ByteArray}
    (free : ((partAt resolver.authoritative).get w).find? name = none)
    (primary : resolver.isPrimary ⟨resolver.authoritative, name, content.size⟩ = true) :
    resolver.primaries ((partAt resolver.authoritative).set
        (((partAt resolver.authoritative).get w).put name content) w) =
      resolver.primaries w ++ [⟨resolver.authoritative, name, content.size⟩] := by
  simp [primaries, filesAt, Part.get_set, MemoryStore.put_of_free free, primary]

/-- A file that is erased is no primary file any more, and every other one still is. -/
theorem primaries_erase (name : String) :
    resolver.primaries ((partAt resolver.authoritative).set
        (((partAt resolver.authoritative).get w).erase name) w) =
      (resolver.primaries w).filter fun file => file.name ≠ name := by
  simp only [primaries, filesAt, Part.get_set, MemoryStore.erase, List.filter_filter,
    List.filter_map, Function.comp_def, Bool.and_comm]

end Resolver

end CameraRoll
