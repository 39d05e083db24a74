import CameraRoll.Proofs.Store.Folder
import CameraRoll.Proofs.Store.Quota

/-!
What the calls of a store in a directory tell of one and the same entry. Looking at a file follows
links and checks the name, listing does neither. Main statements: `DirectoryStore.views_agree_iff`,
by which the calls agree but for files under names that no call takes and for links to files, and
`DirectoryStore.views_disagree`, a directory that has both.
-/

namespace CameraRoll

variable {W : Type}

/-- Name and size of a file are told. -/
def Store.Stats (store : Store (StateM W)) (w : W) (name : String) (size : Nat) : Prop :=
  outcome (store.stat name) w = (.ok ⟨name, size⟩, w)

/-- A file is there, and so many bytes of it are read. -/
def Store.Reads (store : Store (StateM W)) (w : W) (name : String) (size : Nat) : Prop :=
  outcome (store.contains name) w = (.ok true, w) ∧
    ∃ content, outcome (store.read name) w = (.ok content, w) ∧ content.size = size

namespace FileTree

variable {tree : FileTree} {root path name : String} {place : TreeLocation} {size : Nat}

/-- A file stands in the directory under a name that no call takes. -/
structure IsStranded (tree : FileTree) (place : TreeLocation) (name : String) : Prop where
  standing : ∃ content, tree.at? (entryAt place name) = some (.file content)
  unfit : ¬ IsEntryName name

/-- A link stands in the directory under a name that calls take, and it leads to a file. -/
structure IsAlias (tree : FileTree) (root : String) (place : TreeLocation) (name : String) :
    Prop where
  valid : isValidName name = true
  standing : ∃ target, tree.at? (entryAt place name) = some (.link target)
  leads : ∃ size, tree.inspect (Path.join root name) = .ok (.file size)

theorem inspect_eq_file : tree.inspect path = .ok (.file size) ↔
    ∃ content, tree.read path = .ok content ∧ content.size = size := by
  cases located : tree.locate true path with
  | error e => simp [inspect, located, read_of_locate_error located, bind, Except.bind]
  | ok place =>
    rw [inspect_of_locate located, read_of_locate located]
    cases tree.at? place with
    | none => simp
    | some node => cases node <;> simp

/-- Where no link stands, what a name leads to is the entry itself. -/
theorem Opens.inspect_plain (opens : tree.Opens root place) (valid : isValidName name = true)
    (plain : ∀ target, tree.at? (entryAt place name) ≠ some (.link target)) :
    tree.inspect (Path.join root name) = .ok (.file size) ↔ IsEntryName name ∧
      ∃ content, tree.at? (entryAt place name) = some (.file content) ∧ content.size = size := by
  rcases DirectoryStore.fits_or_long valid with fits | long
  · rw [inspect_of_locate (opens.locate_entry fits fun _ => plain)]
    cases standing : tree.at? (entryAt place name) with
    | none => simp
    | some node =>
      cases node with
      | file content => simp [fits]
      | directory => simp
      | link target => exact absurd standing (plain target)
  · -- the name is that of no entry, so nothing is found under it
    have lost : tree.locate true (Path.join root name) = _ :=
      opens.locate_long valid long fun _ => plain
    have unfit : ¬ IsEntryName name := fun fits => absurd fits.short (Nat.not_le_of_lt long)
    simp [inspect, lost, unfit, bind, Except.bind]

end FileTree

namespace DirectoryStore

open FileTree

variable {part : Part W FileTree} {w : W} {root label name : String} {place : TreeLocation}
  {size : Nat}

theorem stats_iff : (operations (disk part) label root).Stats w name size ↔
    isValidName name = true ∧ (part.get w).inspect (Path.join root name) = .ok (.file size) := by
  simp only [Store.Stats, operations, stat]
  cases valid : isValidName name with
  | false => simp [outcome_bind, outcome_onFile_of_invalid valid]
  | true =>
    rw [outcome_bind, outcome_onFile valid]
    simp only [disk, outcome_look]
    cases inspected : (part.get w).inspect (Path.join root name) with
    | error e => simp [Except.mapError]
    | ok standing =>
      cases standing with
      | file held => simp [Except.mapError]
      | directory =>
        constructor
        · intro told
          cases congrArg Prod.fst told
        · rintro ⟨-, same⟩
          cases same

theorem reads_iff : (operations (disk part) label root).Reads w name size ↔
    isValidName name = true ∧ (part.get w).inspect (Path.join root name) = .ok (.file size) := by
  simp only [Store.Reads, operations, contains]
  cases valid : isValidName name with
  | false => simp [outcome_onFile_of_invalid valid]
  | true =>
    rw [outcome_onFile valid, if_pos rfl, outcome_bind, outcome_liftM, run_run]
    simp only [disk, outcome_look]
    constructor
    · -- what was read is what would have been looked at
      rintro ⟨-, content, done, sized⟩
      cases read : (part.get w).read (Path.join root name) with
      | error e =>
        rw [read] at done
        cases congrArg Prod.fst done
      | ok held =>
        rw [read] at done
        obtain rfl : held = content := Except.ok.inj (congrArg Prod.fst done)
        exact ⟨trivial, inspect_eq_file.mpr ⟨held, read, sized⟩⟩
    · rintro ⟨-, inspected⟩
      obtain ⟨content, read, sized⟩ := inspect_eq_file.mp inspected
      rw [inspected, read]
      exact ⟨rfl, content, rfl, sized⟩

/-- A file is listed exactly if it is an entry of the directory itself, whatever its name is. -/
theorem listed_iff (distinct : (part.get w).Distinct) :
    (⟨name, size⟩ : FileInfo) ∈ Quota.listed (filesIn (part.get w) place) ↔
      ∃ content, (part.get w).at? (entryAt place name) = some (.file content) ∧
        content.size = size := by
  rw [Quota.listed, List.mem_map]
  constructor
  · rintro ⟨⟨held, content⟩, member, same⟩
    cases same
    exact ⟨content, (mem_filesIn distinct).mp member, rfl⟩
  · rintro ⟨content, standing, rfl⟩
    exact ⟨(name, content), (mem_filesIn distinct).mpr standing, rfl⟩

/-- What is listed can be looked at, unless the name of the file is one that no call takes. -/
theorem stats_of_listed_iff (opens : (part.get w).Opens root place)
    (distinct : (part.get w).Distinct) :
    (∀ size, (⟨name, size⟩ : FileInfo) ∈ Quota.listed (filesIn (part.get w) place) →
      (operations (disk part) label root).Stats w name size) ↔
    ¬ (part.get w).IsStranded place name := by
  constructor
  · -- the listing asks nothing of a name
    rintro told ⟨⟨content, standing⟩, unfit⟩
    have listed := (listed_iff distinct).mpr ⟨content, standing, rfl⟩
    obtain ⟨valid, inspected⟩ := stats_iff.mp (told content.size listed)
    exact unfit ((opens.inspect_plain valid (noLink_of_file standing)).mp inspected).1
  · intro reachable size listed
    obtain ⟨content, standing, sized⟩ := (listed_iff distinct).mp listed
    have fits : IsEntryName name := by
      by_contra unfit
      exact reachable ⟨⟨content, standing⟩, unfit⟩
    refine stats_iff.mpr ⟨fits.valid, ?_⟩
    apply (opens.inspect_plain fits.valid (noLink_of_file standing)).mpr
    exact ⟨fits, content, standing, sized⟩

/-- What can be looked at is listed, unless it is a link. -/
theorem listed_of_stats_iff (opens : (part.get w).Opens root place)
    (distinct : (part.get w).Distinct) :
    (∀ size, (operations (disk part) label root).Stats w name size →
      (⟨name, size⟩ : FileInfo) ∈ Quota.listed (filesIn (part.get w) place)) ↔
    ¬ (part.get w).IsAlias root place name := by
  constructor
  · -- the listing takes the link itself for the entry, and that is no file
    rintro listed ⟨valid, ⟨target, standing⟩, size, inspected⟩
    have member := listed size (stats_iff.mpr ⟨valid, inspected⟩)
    obtain ⟨content, file, -⟩ := (listed_iff distinct).mp member
    cases standing.symm.trans file
  · intro noAlias size told
    obtain ⟨valid, inspected⟩ := stats_iff.mp told
    -- it is no link, so what was looked at is the entry itself
    have plain (target : String) :
        (part.get w).at? (entryAt place name) ≠ some (.link target) :=
      fun link => noAlias ⟨valid, ⟨target, link⟩, size, inspected⟩
    obtain ⟨-, file⟩ := (opens.inspect_plain valid plain).mp inspected
    exact (listed_iff distinct).mpr file

/-- In a directory in which anything may stand, the listing tells each name once and a quota counts
what is listed. Looking at a file tells its size exactly if as many bytes of it can be read; that
size is listed unless a link leads to the file, and a listed file can be looked at unless its name
is one that no call takes. -/
theorem views_agree_iff (opens : (part.get w).Opens root place) (distinct : (part.get w).Distinct)
    (label : String) :
    let store := operations (disk part) label root
    ∃ files, outcome store.list w = (.ok files, w) ∧ (files.map (·.name)).Nodup ∧
      outcome (Quota.usage store) w = (.ok (Quota.total files), w) ∧
      ∀ name,
        (∀ size, store.Stats w name size ↔ store.Reads w name size) ∧
        ((∀ size, ⟨name, size⟩ ∈ files → store.Stats w name size) ↔
          ¬ (part.get w).IsStranded place name) ∧
        ((∀ size, store.Stats w name size → ⟨name, size⟩ ∈ files) ↔
          ¬ (part.get w).IsAlias root place name) := by
  intro store
  have listing : outcome store.list w = (.ok (Quota.listed (filesIn (part.get w) place)), w) :=
    outcome_list_at opens.located opens.directory label
  refine ⟨_, listing, ?_, ?_, fun name => ⟨fun size => ?_, ?_, ?_⟩⟩
  · rw [Quota.listed, List.map_map]
    exact nodup_filesIn distinct place
  · rw [Quota.usage, outcome_bind_ok listing]
    rfl
  · exact stats_iff.trans reads_iff.symm
  · exact stats_of_listed_iff opens distinct
  · exact listed_of_stats_iff opens distinct

/-- A directory with a picture, a link to it, and a file whose name holds a separator. -/
def linkedTree : FileTree :=
  { nodes := [([EntryName.ofText "camera"], .directory),
      ([EntryName.ofText "camera", EntryName.ofText "a.jpg"], .file "old".toUTF8),
      ([EntryName.ofText "camera", EntryName.ofText "b.jpg"], .link "a.jpg"),
      ([EntryName.ofText "camera", EntryName.ofText "c\\d.jpg"], .file "stray".toUTF8)] }

theorem linkedTree_at? (entry : EntryName) :
    linkedTree.at? ([EntryName.ofText "camera"] ++ [entry]) =
      if entry = EntryName.ofText "a.jpg" then some (.file "old".toUTF8)
      else if entry = EntryName.ofText "b.jpg" then some (.link "a.jpg")
      else if entry = EntryName.ofText "c\\d.jpg" then some (.file "stray".toUTF8)
      else none := by
  simp [FileTree.at?, linkedTree, lookup_cons_ite]

theorem linkedTree_opens : linkedTree.Opens "/camera" [EntryName.ofText "camera"] where
  located := linkedTree.locate_top "camera" (isName_of_isValidName (by decide)) (by decide) rfl
  directory := rfl

theorem linkedTree_distinct : linkedTree.Distinct := by
  rw [FileTree.Distinct]
  decide

theorem linkedTree_locate : linkedTree.locate true "/camera/b.jpg" =
    .ok (entryAt [EntryName.ofText "camera"] "a.jpg") := by
  rw [FileTree.locate_eq linkedTree true (by decide) (by decide),
    show FileTree.steps "/camera/b.jpg" =
      [.into (EntryName.ofText "camera")] ++ [.into (EntryName.ofText "b.jpg")] by decide]
  have enters : Enters linkedTree maxLinks [] [.into (EntryName.ofText "camera")] maxLinks
      [EntryName.ofText "camera"] := .into (by decide) rfl .here
  have link : linkedTree.at? ([EntryName.ofText "camera"] ++ [EntryName.ofText "b.jpg"]) =
      some (.link "a.jpg") := linkedTree_at? _
  have file : linkedTree.at? ([EntryName.ofText "camera"] ++ [EntryName.ofText "a.jpg"]) =
      some (.file "old".toUTF8) := linkedTree_at? _
  change linkedTree.walk true maxLinks [] _ = _
  rw [enters.walk_append true (by simp), maxLinks, walk_link (by decide) link (by decide),
    show FileTree.steps "a.jpg" = [.into (EntryName.ofText "a.jpg")] by decide]
  exact walk_of_isFree (by decide) rfl (Or.inr ⟨_, file⟩)

/-- The picture itself is neither a link nor under a name that no call takes. -/
theorem views_agree_iff_linked :
    let store := operations (disk (Part.whole FileTree)) "local" "/camera"
    ∃ files, outcome store.list linkedTree = (.ok files, linkedTree) ∧
      ∀ size, (⟨"a.jpg", size⟩ : FileInfo) ∈ files ↔ store.Stats linkedTree "a.jpg" size := by
  intro store
  obtain ⟨files, listing, -, -, told⟩ := @views_agree_iff FileTree (Part.whole FileTree) linkedTree
    "/camera" [EntryName.ofText "camera"] linkedTree_opens linkedTree_distinct "local"
  obtain ⟨-, toStats, toListed⟩ := told "a.jpg"
  refine ⟨files, listing, fun size => ⟨?_, ?_⟩⟩
  · refine toStats.mpr ?_ size
    rintro ⟨-, unfit⟩
    exact unfit ⟨by decide, by decide⟩
  · refine toListed.mpr ?_ size
    rintro ⟨-, ⟨target, link⟩, -⟩
    cases (linkedTree_at? (EntryName.ofText "a.jpg")).symm.trans link

/-- The link is looked at and read like the picture it leads to, but neither listed nor counted by a
quota. The file whose name holds a separator is listed and counted, but refused when it is looked
at. -/
theorem views_disagree :
    let store := operations (disk (Part.whole FileTree)) "local" "/camera"
    store.Stats linkedTree "b.jpg" 3 ∧ store.Reads linkedTree "b.jpg" 3 ∧
      outcome store.list linkedTree = (.ok [⟨"a.jpg", 3⟩, ⟨"c\\d.jpg", 5⟩], linkedTree) ∧
      outcome (Quota.usage store) linkedTree = (.ok 8, linkedTree) ∧
      outcome (store.stat "c\\d.jpg") linkedTree = (.error (.invalidName "c\\d.jpg"), linkedTree) := by
  intro store
  have inspected : linkedTree.inspect (Path.join "/camera" "b.jpg") = .ok (.file 3) := by
    rw [show Path.join "/camera" "b.jpg" = "/camera/b.jpg" by decide, inspect_of_locate linkedTree_locate]
    rfl
  have listing : outcome store.list linkedTree =
      (.ok [⟨"a.jpg", 3⟩, ⟨"c\\d.jpg", 5⟩], linkedTree) := by
    have files : filesIn linkedTree [EntryName.ofText "camera"] =
        [("a.jpg", "old".toUTF8), ("c\\d.jpg", "stray".toUTF8)] := by
      simp [filesIn, children, linkedTree, List.filterMap_cons, fileOf?, EntryName.text?_ofText]
    rw [outcome_list_at linkedTree_opens.located linkedTree_opens.directory]
    change (Except.ok ((filesIn linkedTree _).map _), linkedTree) = _
    rw [files]
    rfl
  refine ⟨stats_iff.mpr ⟨by decide, inspected⟩, reads_iff.mpr ⟨by decide, inspected⟩, listing, ?_,
    ?_⟩
  · rw [Quota.usage, outcome_bind_ok listing]
    rfl
  · have refused : isValidName "c\\d.jpg" = false := by decide
    exact outcome_bind_error (outcome_onFile_of_invalid refused _) _

end DirectoryStore

end CameraRoll
