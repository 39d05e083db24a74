import CameraRoll.Host.Local
import CameraRoll.Proofs.Resolver.Folders
import CameraRoll.Proofs.Settings.File
import CameraRoll.Resolver.Initialization

/-!
The start of a session whose locations are directories of a disk. Main statement: `start_quiet`, by
which a session that has nothing to move makes the private directory at most, and is ready with both
locations where the host has them or fails.
-/

namespace CameraRoll

open FileTree

variable {W : Type} {part : Part W FileTree} {w : W}

/-! ### The external location -/

namespace LocalHost

/-- The directory of a volume, or one of the directories in it. -/
def pathIn? (host : LocalHost) (volume : String) (subdirectory : Option String) : Option String :=
  (host.directory? volume).map fun root =>
    match subdirectory with
    | some directory => Path.join root directory
    | none => root

/-- The directory for pictures in the first suitable volume. -/
def volumePath? (host : LocalHost) : Option String :=
  ((host.volumes.map (·.1)).find? Host.isSuitable).bind fun volume =>
    host.pathIn? volume (Host.subdirectoryOf volume)

/-- The directory that becomes the external location, if it is there. -/
def externalPath? (host : LocalHost) (tree : FileTree) : Option String :=
  host.volumePath?.filter tree.isDirectory

/-- All directories of a host are given by absolute paths. -/
structure IsAbsolute (host : LocalHost) : Prop where
  internal : Path.isAbsolute host.internalPath = true
  volumes : ∀ volume ∈ host.volumes, Path.isAbsolute volume.2 = true

variable {host : LocalHost}

theorem isAbsolute_pathIn (absolute : ∀ volume ∈ host.volumes, Path.isAbsolute volume.2 = true)
    {volume path : String} {subdirectory : Option String}
    (declared : host.pathIn? volume subdirectory = some path) : Path.isAbsolute path = true := by
  obtain ⟨root, found, rfl⟩ := Option.map_eq_some_iff.mp declared
  have member : (volume, root) ∈ host.volumes := List.mem_reverse.mp (mem_of_lookup found)
  have itself := absolute _ member
  cases subdirectory with
  | none => exact itself
  | some directory => exact Path.isAbsolute_join itself directory

theorem opens_externalPath {tree : FileTree} {path : String}
    (found : host.externalPath? tree = some path) : ∃ place, tree.Opens path place :=
  Opens.of_isDirectory (Option.filter_eq_some_iff.mp found).2

theorem openVolume_eq {m : Type → Type} [Monad m] (disk : Disk m) (volume : String)
    (subdirectory : Option String) :
    (host.operations disk).openVolume volume subdirectory =
      match host.pathIn? volume subdirectory with
      | none => return none
      | some path => DirectoryStore.openExisting disk volume path := by
  simp only [operations, pathIn?]
  cases host.directory? volume with
  | none => rfl
  | some root => cases subdirectory <;> rfl

theorem outcome_openVolume
    (absolute : ∀ volume ∈ host.volumes, Path.isAbsolute volume.2 = true) (volume : String)
    (subdirectory : Option String) (w : W) :
    outcome ((host.operations (FileTree.disk part)).openVolume volume subdirectory) w =
      (.ok (((host.pathIn? volume subdirectory).filter (part.get w).isDirectory).map
        (DirectoryStore.operations (FileTree.disk part) volume)), w) := by
  rw [openVolume_eq]
  cases declared : host.pathIn? volume subdirectory with
  | none => rfl
  | some path =>
    dsimp only
    rw [DirectoryStore.outcome_openExisting (isAbsolute_pathIn absolute declared)]
    cases directory : (part.get w).isDirectory path <;> simp [Option.filter, directory]

/-- The probe looks at the disk and leaves it as it is. -/
theorem run_probeExternal (part : Part W FileTree)
    (absolute : ∀ volume ∈ host.volumes, Path.isAbsolute volume.2 = true) (w : W) :
    ∃ label, ((host.operations (FileTree.disk part)).probeExternal).run w =
      ((host.externalPath? (part.get w)).map
        (DirectoryStore.operations (FileTree.disk part) label), w) := by
  have listed : (host.operations (FileTree.disk part)).volumes =
      pure (some (host.volumes.map (·.1))) := rfl
  rw [Host.probeExternal, listed, pure_bind]
  unfold externalPath? volumePath?
  rw [Option.bind_some]
  cases (host.volumes.map (·.1)).find? Host.isSuitable with
  | none => exact ⟨"", rfl⟩
  | some volume =>
    refine ⟨volume, ?_⟩
    dsimp only
    rw [StateT.run_bind, run_run, outcome_openVolume absolute]
    rfl

end LocalHost

/-! ### Flags in a file -/

namespace SettingsFile

open Resolver

/-- The flag that a session finds in the file at a path. -/
def sees (tree : FileTree) (path key : String) : Bool :=
  match membersIn tree path with
  | .ok members => flag members key false
  | .error _ => false

theorem run_flagOf {settings : Settings (StateM W)} {path : String}
    (same : settings.get = (operations (FileTree.disk part) path).get) (key : String) (w : W) :
    (flagOf settings key).run w = (sees (part.get w) path key, w) := by
  have got : outcome (settings.get key false) w =
      ((membersIn (part.get w) path).map fun members => flag members key false, w) := by
    rw [same]
    simp only [operations]
    rw [outcome_bind_pure, outcome_load]
  rw [flagOf, StateT.run_bind, run_run, got, sees]
  cases membersIn (part.get w) path <;> rfl

/-- A flag that is set is still found once directories were made. -/
theorem sees_of_paved {tree other : FileTree} (paved : tree.Paved other) {path key : String}
    (seen : sees tree path key = true) : sees other path key = true := by
  cases held : tree.read path with
  | ok content =>
    rw [sees, membersIn, held] at seen
    rw [sees, membersIn, paved.read held]
    exact seen
  -- a file that is not there or cannot be read has no flags
  | error e => cases e <;> simp [sees, membersIn, held, flag] at seen

end SettingsFile

/-! ### A session that moves nothing -/

namespace Resolver

/-- The locations of a resolver are the directories that a host has in a tree. -/
structure Occupies (resolver : Resolver (StateM W)) (part : Part W FileTree) (host : LocalHost)
    (place : Location → TreeLocation) (tree : FileTree) : Prop where
  lodges : resolver.LodgesIn part place tree
  internal : tree.Opens host.internalPath (place .internal)
  hasExternal : resolver.hasExternal = (host.externalPath? tree).isSome
  external : ∀ path, host.externalPath? tree = some path → tree.Opens path (place .external)

theorem exists_occupies (part : Part W FileTree) {tree : FileTree} {host : LocalHost}
    {inside : TreeLocation} (opens : tree.Opens host.internalPath inside) (quota : Nat)
    (label : String) (zone : Calendar.Zone) : ∃ place, Occupies
      ⟨(DirectoryStore.operations (FileTree.disk part) "internal" host.internalPath).withQuota quota,
        (host.externalPath? tree).map (DirectoryStore.operations (FileTree.disk part) label), zone⟩
      part host place tree := by
  have lies := (DirectoryStore.operations_liesIn part "internal" host.internalPath).withQuota quota
  cases found : host.externalPath? tree with
  -- without an outside, its place is never asked for
  | none =>
    refine ⟨fun _ => inside, ?_, opens, by rw [found]; rfl, by simp [found]⟩
    intro location store here
    cases location with
    | internal =>
      cases here
      exact ⟨_, lies, opens⟩
    | external => cases here
  | some path =>
    obtain ⟨outside, opened⟩ := LocalHost.opens_externalPath found
    refine ⟨fun location => if location = .internal then inside else outside, ?_, opens,
      by rw [found]; rfl, ?_⟩
    · intro location store here
      cases location with
      | internal =>
        cases here
        exact ⟨_, lies, opens⟩
      | external =>
        cases here
        exact ⟨_, DirectoryStore.operations_liesIn part label path, opened⟩
    · intro other same
      cases found.symm.trans same
      exact opened

/-- Where all pictures are outside or nothing is, nothing is moved, asked or remembered. -/
theorem settle_quiet {resolver : Resolver (StateM W)} {settings : Settings (StateM W)}
    {consented consolidated : Bool} {prompt : StateM W Bool}
    (quiet : consolidated = true ∨ resolver.hasExternal = false) (w : W) :
    (∃ e, outcome (resolver.settle settings consented consolidated prompt) w = (.error e, w)) ∨
      outcome (resolver.settle settings consented consolidated prompt) w =
        (.ok (.ready resolver), w) := by
  unfold settle
  cases external : resolver.hasExternal with
  | true =>
    rcases quiet with rfl | alone
    · exact Or.inr rfl
    · cases external.symm.trans alone
  | false =>
    cases consolidated with
    | true => exact Or.inl ⟨_, rfl⟩
    | false => exact Or.inr rfl

section Start

variable {host : Host (StateM W)} {settings : Settings (StateM W)} {external : Option (Store (StateM W))}
  {quota : Nat} {after : W} {value : String → Bool} (zone : Calendar.Zone) (prompt : StateM W Bool)

/-- The probe and the flags come first, also without a store inside. -/
private theorem outcome_start_of_error {e : StoreError}
    (failed : outcome (host.internalStore quota) w = (.error e, after))
    (probed : host.probeExternal.run after = (external, after))
    (flagged : ∀ key, (flagOf settings key).run after = (value key, after)) :
    outcome (start host settings quota zone prompt) w = (.error (.internalUnavailable e), after) := by
  rw [start, outcome_bind, outcome_liftM, run_run, failed]
  dsimp only
  rw [outcome_bind_ok (outcome_lift probed), outcome_bind_ok (outcome_lift (flagged _)),
    outcome_bind_ok (outcome_lift (flagged _))]
  rfl

/-- With a store inside, what comes after the probe and the flags depends on them. -/
theorem outcome_start_of_ok {store : Store (StateM W)}
    (acquired : outcome (host.internalStore quota) w = (.ok store, after))
    (probed : host.probeExternal.run after = (external, after))
    (flagged : ∀ key, (flagOf settings key).run after = (value key, after)) :
    outcome (start host settings quota zone prompt) w =
      outcome (settle ⟨store, external, zone⟩ settings (value Settings.consentKey)
        (value Settings.consolidatedKey) prompt) after := by
  rw [start, outcome_bind, outcome_liftM, run_run, acquired]
  dsimp only
  rw [outcome_bind_ok (outcome_lift probed), outcome_bind_ok (outcome_lift (flagged _)),
    outcome_bind_ok (outcome_lift (flagged _))]

end Start

/-- A session that has nothing to move makes the private directory at most, and is ready or fails. -/
theorem start_quiet {host : LocalHost} (absolute : host.IsAbsolute) (rooted : (part.get w).Rooted)
    {settings : Settings (StateM W)} {path : String}
    (same : settings.get = (SettingsFile.operations (FileTree.disk part) path).get)
    (quiet : SettingsFile.sees ((part.get w).withDirectory host.internalPath) path
        Settings.consolidatedKey = true ∨
      host.externalPath? ((part.get w).withDirectory host.internalPath) = none)
    (quota : Nat) (zone : Calendar.Zone) (prompt : StateM W Bool) :
    (∃ e, outcome (start (host.operations (FileTree.disk part)) settings quota zone prompt) w =
      (.error e, part.set ((part.get w).withDirectory host.internalPath) w)) ∨
    ∃ resolver place, resolver.zone = zone ∧
      resolver.Occupies part host place ((part.get w).withDirectory host.internalPath) ∧
      outcome (start (host.operations (FileTree.disk part)) settings quota zone prompt) w =
        (.ok (.ready resolver), part.set ((part.get w).withDirectory host.internalPath) w) := by
  generalize isFound : (part.get w).withDirectory host.internalPath = found at quiet ⊢
  have now : part.get (part.set found w) = found := part.get_set _ _
  obtain ⟨label, probed⟩ := LocalHost.run_probeExternal part absolute.volumes (part.set found w)
  have flagged (key : String) : (flagOf settings key).run (part.set found w) =
      (SettingsFile.sees found path key, part.set found w) := by
    rw [SettingsFile.run_flagOf same, now]
  have made : outcome ((host.operations (FileTree.disk part)).internalStore quota) w =
      ((outcome (DirectoryStore.make (FileTree.disk part) "internal" host.internalPath) w).1.map
        (·.withQuota quota),
        (outcome (DirectoryStore.make (FileTree.disk part) "internal" host.internalPath) w).2) :=
    outcome_bind_pure _ _ _
  rcases DirectoryStore.make_cases rooted absolute.internal
    (Path.isAbsolute_ne_empty absolute.internal) "internal" with ⟨e, failed⟩ | ⟨⟨inside, opens⟩, done⟩
  · rw [failed, isFound] at made
    exact Or.inl ⟨_, outcome_start_of_error zone prompt made probed flagged⟩
  · rw [done, isFound] at made
    rw [isFound] at opens
    obtain ⟨place, occupies⟩ := exists_occupies part opens quota label zone
    rw [outcome_start_of_ok zone prompt made probed flagged, now]
    rcases settle_quiet (quiet.imp_right fun none => by rw [occupies.hasExternal, none]; rfl)
      (part.set found w) with ⟨e, failed⟩ | ready
    · exact Or.inl ⟨e, failed⟩
    · exact Or.inr ⟨_, place, rfl, occupies, ready⟩

end Resolver

end CameraRoll
