import CameraRoll.Proofs.Disk.Writing
import CameraRoll.Proofs.Resolver.Opening

/-!
Which directory becomes the external location of a host whose volumes are declared in a list. Main
statements: `DirectoryStore.operations_writesIn`, by which a written file appears in the directory
of a store, and `LocalHost.probeExternal_latest`, by which the identifier is that of the first
suitable declaration and the directory that of the last one under this identifier.
`LocalHost.probeExternal_redeclared` has a host for which the two are not the same.
-/

namespace CameraRoll

open FileTree

variable {W : Type} {part : Part W FileTree}

/-! ### Files written through a store -/

/-- A file that is written to a store appears in a directory, and is accepted where an entry can be
added or replaced. -/
structure Store.WritesIn (store : Store (StateM W)) (part : Part W FileTree) (directory : String) :
    Prop where
  appears : ∀ w w' name content, (part.get w).Rooted →
    outcome (store.write name content) w = (.ok (), w') →
      (part.get w').read (Path.join directory name) = .ok content
  accepts : ∀ w place name content, (part.get w).Opens directory place → IsEntryName name →
    (part.get w).IsFree (entryAt place name) →
      outcome (store.write name content) w =
        (.ok (), part.set ((part.get w).put (entryAt place name) (.file content)) w)

theorem DirectoryStore.operations_writesIn (part : Part W FileTree) (label root : String) :
    (operations (FileTree.disk part) label root).WritesIn part root where
  appears w w' name content rooted wrote := by
    simp only [operations] at wrote
    cases valid : isValidName name with
    | false =>
      rw [outcome_onFile_of_invalid valid] at wrote
      cases congrArg Prod.fst wrote
    | true =>
      rw [outcome_onFile valid] at wrote
      simp only [FileTree.disk, outcome_change] at wrote
      cases written : (part.get w).write (Path.join root name) content with
      | error e =>
        rw [written] at wrote
        cases congrArg Prod.fst wrote
      | ok changed =>
        rw [written] at wrote
        obtain rfl : part.set changed w = w' := congrArg Prod.snd wrote
        rw [part.get_set]
        exact rooted.read_of_write written
  accepts w place name content opens fits free := by
    rw [outcome_write_at fits.valid (opens.locate_entry fits fun _ => free.noLink) label content]
    rcases free with nothing | ⟨old, file⟩
    · rw [nothing]
    · rw [file]

/-! ### Declared volumes -/

namespace LocalHost

variable {host : LocalHost}

/-- The first declaration of a volume that can hold the external location. -/
def firstSuitable? (host : LocalHost) : Option (String × String) :=
  host.volumes.find? fun declared => Host.isSuitable declared.1

/-- The directory for pictures by a declaration. -/
def picturesPath (declared : String × String) : String :=
  match Host.subdirectoryOf declared.1 with
  | some directory => Path.join declared.2 directory
  | none => declared.2

/-- A declaration under whose identifier there is no later one. -/
def IsLatest (host : LocalHost) (declared : String × String) : Prop :=
  ∃ before after, host.volumes = before ++ declared :: after ∧
    ∀ other ∈ after, other.1 ≠ declared.1

theorem IsLatest.mem {declared : String × String} (latest : host.IsLatest declared) :
    declared ∈ host.volumes := by
  obtain ⟨before, after, split, -⟩ := latest
  simp [split]

/-- Of declarations under one identifier the latest one counts. -/
theorem directory?_eq_some_iff {volume root : String} :
    host.directory? volume = some root ↔ host.IsLatest (volume, root) := by
  rw [directory?, List.lookup_eq_some_iff]
  constructor
  · rintro ⟨back, front, split, apart⟩
    refine ⟨front.reverse, back.reverse, ?_, fun other member => ?_⟩
    · rw [← List.reverse_reverse host.volumes, split]
      simp
    · exact Ne.symm (bne_iff_ne.mp (apart other (List.mem_reverse.mp member)))
  · rintro ⟨front, back, split, apart⟩
    refine ⟨back.reverse, front.reverse, by simp [split], fun other member => ?_⟩
    exact bne_iff_ne.mpr (Ne.symm (apart other (List.mem_reverse.mp member)))

theorem exists_isLatest {declared : String × String} (member : declared ∈ host.volumes) :
    ∃ last, host.IsLatest last ∧ last.1 = declared.1 := by
  cases found : host.directory? declared.1 with
  | some root => exact ⟨_, directory?_eq_some_iff.mp found, rfl⟩
  | none =>
    exact absurd rfl ((lookup_eq_none_iff_ne _ _).mp found declared (List.mem_reverse.mpr member))

/-- The first suitable declaration says which volume is opened, the latest one under its identifier
where that is. -/
theorem volumePath?_cases (host : LocalHost) :
    host.firstSuitable? = none ∧ host.volumePath? = none ∨
    ∃ first last, host.firstSuitable? = some first ∧ host.IsLatest last ∧ last.1 = first.1 ∧
      host.volumePath? = some (picturesPath last) := by
  rw [volumePath?, List.find?_map]
  cases found : host.firstSuitable? with
  | none =>
    refine Or.inl ⟨rfl, ?_⟩
    rw [show host.volumes.find? (Host.isSuitable ∘ (·.1)) = none from found]
    rfl
  | some first =>
    -- only the identifier of the declaration is kept, and its directory is looked up again
    obtain ⟨⟨volume, root⟩, latest, same⟩ := exists_isLatest (List.mem_of_find?_eq_some found)
    obtain rfl : volume = first.1 := same
    refine Or.inr ⟨first, _, rfl, latest, rfl, ?_⟩
    rw [show host.volumes.find? (Host.isSuitable ∘ (·.1)) = some first from found, Option.map_some,
      Option.bind_some, pathIn?, directory?_eq_some_iff.mpr latest, picturesPath]
    cases Host.subdirectoryOf first.1 <;> rfl

/-- The external location is in the volume of the first suitable declaration, at the directory of
the latest declaration under the same identifier; there is none if there is no such directory. It is
at the directory of the first suitable declaration unless another one is declared under its
identifier. -/
theorem probeExternal_latest
    (absolute : ∀ volume ∈ host.volumes, Path.isAbsolute volume.2 = true) (w : W) :
    let probed := (host.operations (FileTree.disk part)).probeExternal.run w
    probed.2 = w ∧ (host.firstSuitable? = none → probed.1 = none) ∧
    ∀ first, host.firstSuitable? = some first →
      ∃ last, host.IsLatest last ∧ last.1 = first.1 ∧
        (probed.1 = none ↔ (part.get w).isDirectory (picturesPath last) = false) ∧
        (∀ store, probed.1 = some store → store.WritesIn part (picturesPath last)) ∧
        ((∀ other ∈ host.volumes, other.1 = first.1 → other.2 = first.2) → last = first) := by
  intro probed
  obtain ⟨label, ran⟩ := run_probeExternal part absolute w
  have answer : probed.1 = _ := congrArg Prod.fst ran
  refine ⟨congrArg Prod.snd ran, ?_⟩
  rcases host.volumePath?_cases with
    ⟨unsuitable, nowhere⟩ | ⟨first, last, found, latest, same, path⟩
  · rw [unsuitable]
    refine ⟨fun _ => answer.trans ?_, fun _ declared => by cases declared⟩
    rw [externalPath?, nowhere]
    rfl
  · rw [found]
    refine ⟨fun none => absurd none (by simp), fun other declared => ?_⟩
    obtain rfl := Option.some.inj declared
    refine ⟨last, latest, same, ?_, fun store here => ?_, fun only => ?_⟩
    · rw [answer, externalPath?, path]
      cases directory : (part.get w).isDirectory (picturesPath last) <;>
        simp [Option.filter, directory]
    · rw [answer, externalPath?, path] at here
      obtain ⟨directory, isPath, rfl⟩ := Option.map_eq_some_iff.mp here
      obtain rfl : picturesPath last = directory :=
        Option.some.inj (Option.filter_eq_some_iff.mp isPath).1
      exact DirectoryStore.operations_writesIn part label _
    · exact Prod.ext same (only last latest.mem same)

/-! ### Overlapping and repeated identifiers -/

/-- Two directories for volumes, the second one with a directory for downloads. -/
def volumesTree : FileTree :=
  { nodes := [([EntryName.ofText "a"], .directory), ([EntryName.ofText "b"], .directory),
      ([EntryName.ofText "b", EntryName.ofText "Downloads"], .directory)] }

/-- Where the two volumes and the downloads are. -/
theorem volumesTree_opens :
    volumesTree.Opens "/a" (entryAt [] "a") ∧ volumesTree.Opens "/b" (entryAt [] "b") ∧
      volumesTree.Opens "/b/Downloads" (entryAt (entryAt [] "b") "Downloads") := by
  have root : volumesTree.Opens "/" [] := .slash volumesTree
  have first : volumesTree.at? (entryAt [] "a") = some .directory := by
    simp [volumesTree, at?, entryAt]
  have second : volumesTree.at? (entryAt [] "b") = some .directory := by
    simp [volumesTree, at?, entryAt, lookup_cons_ite]
  have below : volumesTree.at? (entryAt (entryAt [] "b") "Downloads") = some .directory := by
    simp [volumesTree, at?, entryAt, lookup_cons_ite]
  have volume : volumesTree.Opens "/b" (entryAt [] "b") := root.entry ⟨by decide, by decide⟩ second
  exact ⟨root.entry ⟨by decide, by decide⟩ first, volume, volume.entry ⟨by decide, by decide⟩ below⟩

/-- The first suitable one of several declarations, some under one identifier. -/
theorem probeExternal_latest_overlapping :
    let host : LocalHost := ⟨"/in", [("camera", "/a"),
      ("downloads:MyFiles downloads:Downloads", "/b"), ("downloads:Downloads", "/a"),
      ("camera", "/b")]⟩
    let probed := (host.operations (FileTree.disk (Part.whole FileTree))).probeExternal.run
      volumesTree
    ∃ store, probed = (some store, volumesTree) ∧ ∀ content,
      outcome (store.write "a.jpg" content) volumesTree = (.ok (), volumesTree.put
        (entryAt (entryAt (entryAt [] "b") "Downloads") "a.jpg") (.file content)) := by
  intro host probed
  have absolute : ∀ volume ∈ host.volumes, Path.isAbsolute volume.2 = true := by decide
  have suitable : host.firstSuitable? = some ("downloads:MyFiles downloads:Downloads", "/b") := by
    decide
  have path : picturesPath ("downloads:MyFiles downloads:Downloads", "/b") = "/b/Downloads" := by
    decide
  obtain ⟨quiet, -, opened⟩ := @probeExternal_latest _ (Part.whole FileTree) host absolute
    volumesTree
  obtain ⟨last, -, -, missing, written, only⟩ := opened _ suitable
  obtain rfl := only (by decide)
  rw [path] at missing written
  cases answer : probed.1 with
  | none => cases volumesTree_opens.2.2.isDirectory.symm.trans (missing.mp answer)
  | some store =>
    refine ⟨store, Prod.ext answer quiet, fun content => ?_⟩
    exact (written store answer).accepts volumesTree _ "a.jpg" content volumesTree_opens.2.2
      ⟨by decide, by decide⟩ (Or.inl (by decide))

/-- A volume that is declared again is opened at its other directory, though its first one is
there. -/
theorem probeExternal_redeclared :
    let host : LocalHost := ⟨"/in", [("downloads:Downloads", "/a"), ("downloads:Downloads", "/b")]⟩
    let probed := (host.operations (FileTree.disk (Part.whole FileTree))).probeExternal.run
      volumesTree
    host.firstSuitable? = some ("downloads:Downloads", "/a") ∧
      picturesPath ("downloads:Downloads", "/a") = "/a" ∧ volumesTree.isDirectory "/a" = true ∧
      ∃ store, probed = (some store, volumesTree) ∧ ∀ content, ∃ after,
        outcome (store.write "a.jpg" content) volumesTree = (.ok (), after) ∧
          after.at? (entryAt (entryAt [] "a") "a.jpg") = none ∧
          after.at? (entryAt (entryAt [] "b") "a.jpg") = some (.file content) := by
  intro host probed
  have absolute : ∀ volume ∈ host.volumes, Path.isAbsolute volume.2 = true := by decide
  have path : host.volumePath? = some "/b" := by decide
  obtain ⟨first, second, -⟩ := volumesTree_opens
  obtain ⟨label, ran⟩ := run_probeExternal (Part.whole FileTree) absolute volumesTree
  have here : host.externalPath? volumesTree = some "/b" := by
    rw [externalPath?, path, Option.filter_some, if_pos second.isDirectory]
  rw [Part.get_whole, here] at ran
  refine ⟨by decide, by decide, first.isDirectory, _, ran, fun content => ?_⟩
  have accepted := (DirectoryStore.operations_writesIn (Part.whole FileTree) label "/b").accepts
    volumesTree _ "a.jpg" content second ⟨by decide, by decide⟩ (Or.inl (by decide))
  refine ⟨volumesTree.put (entryAt (entryAt [] "b") "a.jpg") (.file content), accepted, ?_, ?_⟩
  · rw [at?_put _ (entryAt_ne_nil _ _), if_neg (by decide)]
    decide
  · rw [at?_put _ (entryAt_ne_nil _ _), if_pos rfl]

end LocalHost

end CameraRoll
