import CameraRoll.Proofs.Disk.Directories

/-!
Trees that grow. Ways depend on directories and links alone, so files that are added or taken away
do not change where paths lead. Main statements: `KeepsWays.locate`, by which a way stays as long as
directories and links do, `Rooted.opens_of_makeDirectories`, by which directories that were made are
open, `paved_makeDirectories`, by which nothing else is made, and `Changes.read_iff`, by which files
that come and go change nothing about those in other places.
-/

namespace CameraRoll

namespace FileTree

variable {tree other third : FileTree} {root path : String} {place location : TreeLocation}

theorem read_eq_ok {content : ByteArray} : tree.read path = .ok content ↔
    ∃ place, tree.locate true path = .ok place ∧ tree.at? place = some (.file content) := by
  cases located : tree.locate true path with
  | error e => simp [read_of_locate_error located]
  | ok place =>
    rw [read_of_locate located]
    cases standing : tree.at? place with
    | none => simp [standing]
    | some node => cases node <;> simp [standing]

/-! ### Ways -/

/-- A walk ends at its last step if that leads to nothing or to a file. -/
theorem walk_of_isFree {follow : Bool} {links : Nat} {here : TreeLocation} {name : EntryName}
    {rest : List Step} (short : ¬ EntryName.maxLength < name.length) (last : rest.isEmpty = true)
    (free : tree.IsFree (here ++ [name])) :
    tree.walk follow links here (.into name :: rest) = .ok (here ++ [name]) := by
  rw [walk, if_neg short]
  rcases free with none | ⟨content, file⟩
  · simp only [none, if_pos last]
  · simp only [file, if_pos last]

/-- The directories and links of a tree are in another one, too, and so are the ways along them. -/
structure KeepsWays (tree other : FileTree) : Prop where
  workingDirectory : other.workingDirectory = tree.workingDirectory
  directory : ∀ location, tree.at? location = some .directory →
    other.at? location = some .directory
  link : ∀ location target, tree.at? location = some (.link target) →
    other.at? location = some (.link target)

namespace KeepsWays

theorem refl (tree : FileTree) : tree.KeepsWays tree := ⟨rfl, fun _ => id, fun _ _ => id⟩

theorem trans (first : tree.KeepsWays other) (second : other.KeepsWays third) :
    tree.KeepsWays third where
  workingDirectory := second.workingDirectory.trans first.workingDirectory
  directory location standing := second.directory location (first.directory location standing)
  link location target standing := second.link location target (first.link location target standing)

/-- Where nothing but files goes, the ways stay. -/
theorem of_files (workingDirectory : other.workingDirectory = tree.workingDirectory)
    (kept : ∀ location node, tree.at? location = some node →
      other.at? location = some node ∨ ∃ content, node = .file content) :
    tree.KeepsWays other where
  workingDirectory := workingDirectory
  directory _ standing := (kept _ _ standing).resolve_right nofun
  link _ _ standing := (kept _ _ standing).resolve_right nofun

theorem put (free : tree.IsFree location) (node : Node) :
    tree.KeepsWays (tree.put location node) where
  workingDirectory := put_workingDirectory _ _ _
  directory _ standing := (free.at?_put node (by simp [IsFree, standing])).trans standing
  link _ _ standing := (free.at?_put node (by simp [IsFree, standing])).trans standing

theorem erase (free : tree.IsFree location) : tree.KeepsWays (tree.erase location) where
  workingDirectory := erase_workingDirectory _ _
  directory _ standing := (free.at?_erase (by simp [IsFree, standing])).trans standing
  link _ _ standing := (free.at?_erase (by simp [IsFree, standing])).trans standing

/-- What stood in a place is one thing more beside the rest. -/
theorem of_erase (below : location ≠ []) : (tree.erase location).KeepsWays tree where
  workingDirectory := rfl
  directory _ standing := of_at?_erase below standing
  link _ _ standing := of_at?_erase below standing

theorem enters (keeps : tree.KeepsWays other) {links left : Nat} {here : TreeLocation}
    {steps : List Step} (enters : Enters tree links here steps left place) :
    Enters other links here steps left place :=
  enters.mono keeps.directory fun location target standing _ => keeps.link location target standing

theorem isPassable (keeps : tree.KeepsWays other) {target : String}
    (passable : tree.IsPassable location target) : other.IsPassable location target := by
  obtain ⟨nonempty, links, left, inside, enters⟩ := passable
  exact ⟨nonempty, links, left, inside, keeps.enters enters⟩

theorem leads (keeps : tree.KeepsWays other) (leads : tree.Leads path place) :
    other.Leads path place := by
  obtain ⟨noNul, left, enters⟩ := leads
  exact ⟨noNul, left, by rw [start, keeps.workingDirectory]; exact keeps.enters enters⟩

theorem walk (keeps : tree.KeepsWays other) {follow : Bool} {links : Nat} {here : TreeLocation}
    {steps : List Step} (arrived : tree.walk follow links here steps = .ok place)
    (free : tree.IsFree place → other.IsFree place) :
    other.walk follow links here steps = .ok place := by
  -- along the steps: only at the last one a walk can meet anything but a directory or a link
  fun_induction FileTree.walk tree follow links here steps
  case case1 links here =>
    rw [FileTree.walk]
    exact arrived
  case case2 links here rest ih =>
    rw [FileTree.walk]
    exact ih arrived
  case case3 links here rest ih =>
    rw [FileTree.walk]
    exact ih arrived
  case case7 links here name rest there long standing ih =>
    have still : other.at? (here ++ [name]) = some .directory := keeps.directory _ standing
    rw [FileTree.walk, if_neg long]
    simp only [still]
    exact ih arrived
  case case13 here name rest there long target standing onward named links ih =>
    have still : other.at? (here ++ [name]) = some (.link target) := keeps.link _ _ standing
    rw [FileTree.walk, if_neg long]
    simp only [still]
    rw [if_neg onward, if_neg named]
    exact ih arrived
  case case10 links here name rest there long target standing last =>
    have still : other.at? (here ++ [name]) = some (.link target) := keeps.link _ _ standing
    rw [FileTree.walk, if_neg long]
    simp only [still]
    rw [if_pos last]
    exact arrived
  case case5 links here name rest there long nothing last =>
    obtain rfl : here ++ [name] = place := Except.ok.inj arrived
    exact walk_of_isFree long last (free (Or.inl nothing))
  case case8 links here name rest there long content standing last =>
    obtain rfl : here ++ [name] = place := Except.ok.inj arrived
    exact walk_of_isFree long last (free (Or.inr ⟨content, standing⟩))
  all_goals cases arrived

/-- A path leads where it did, if files stand only where files or nothing stood. -/
theorem locate (keeps : tree.KeepsWays other) {follow : Bool}
    (located : tree.locate follow path = .ok place) (free : tree.IsFree place → other.IsFree place) :
    other.locate follow path = .ok place := by
  obtain ⟨nonempty, noNul⟩ := locate_ok located
  rw [locate_eq _ _ nonempty noNul] at located ⊢
  rw [start, keeps.workingDirectory]
  exact keeps.walk located free

end KeepsWays

/-- Two trees have the same directories and links. -/
def SameWays (tree other : FileTree) : Prop := tree.KeepsWays other ∧ other.KeepsWays tree

namespace SameWays

theorem trans (first : tree.SameWays other) (second : other.SameWays third) :
    tree.SameWays third :=
  ⟨first.1.trans second.1, second.2.trans first.2⟩

theorem symm (same : tree.SameWays other) : other.SameWays tree := ⟨same.2, same.1⟩

/-- Two trees differ in nothing but files. -/
theorem of_free (workingDirectory : other.workingDirectory = tree.workingDirectory)
    (alike : ∀ location, other.at? location = tree.at? location ∨
      tree.IsFree location ∧ other.IsFree location) : tree.SameWays other where
  left := by
    refine ⟨workingDirectory, fun location directory => ?_, fun location target link => ?_⟩
    · rcases alike location with same | ⟨free, -⟩
      · exact same.trans directory
      · exact absurd directory free.noDirectory
    · rcases alike location with same | ⟨free, -⟩
      · exact same.trans link
      · exact absurd link (free.noLink target)
  right := by
    refine ⟨workingDirectory.symm, fun location directory => ?_, fun location target link => ?_⟩
    · rcases alike location with same | ⟨-, free⟩
      · exact same.symm.trans directory
      · exact absurd directory free.noDirectory
    · rcases alike location with same | ⟨-, free⟩
      · exact same.symm.trans link
      · exact absurd link (free.noLink target)

theorem put (free : tree.IsFree location) (content : ByteArray) :
    tree.SameWays (tree.put location (.file content)) := by
  refine ⟨.put free _, .of_files (put_workingDirectory _ _ _).symm fun _ _ standing => ?_⟩
  exact (of_at?_put free.ne_nil standing).imp_right fun new => ⟨content, new.2⟩

theorem erase (free : tree.IsFree location) : tree.SameWays (tree.erase location) :=
  ⟨.erase free, .of_files rfl fun _ _ standing => Or.inl (of_at?_erase free.ne_nil standing)⟩

theorem isFree (same : tree.SameWays other) (free : tree.IsFree location) :
    other.IsFree location := by
  cases standing : other.at? location with
  | none => exact Or.inl standing
  | some node =>
    cases node with
    | file content => exact Or.inr ⟨content, standing⟩
    | directory => exact absurd (same.2.directory _ standing) free.noDirectory
    | link target => exact absurd (same.2.link _ _ standing) (free.noLink target)

theorem locate_iff (same : tree.SameWays other) {follow : Bool} :
    other.locate follow path = .ok place ↔ tree.locate follow path = .ok place :=
  ⟨fun located => same.2.locate located same.symm.isFree,
    fun located => same.1.locate located same.isFree⟩

/-- Where a path leads to the same file or to none in both trees, it is read alike. -/
theorem read_iff (same : tree.SameWays other) {content : ByteArray}
    (alike : ∀ place, tree.locate true path = .ok place →
      (other.at? place = some (.file content) ↔ tree.at? place = some (.file content))) :
    other.read path = .ok content ↔ tree.read path = .ok content := by
  rw [read_eq_ok, read_eq_ok]
  constructor
  · rintro ⟨place, located, standing⟩
    rw [same.locate_iff] at located
    exact ⟨place, located, (alike place located).mp standing⟩
  · rintro ⟨place, located, standing⟩
    exact ⟨place, same.locate_iff.mpr located, (alike place located).mpr standing⟩

end SameWays

/-! ### Open directories -/

/-- A path leads into a directory. -/
structure Opens (tree : FileTree) (root : String) (place : TreeLocation) : Prop where
  located : tree.locate true root = .ok place
  directory : tree.at? place = some .directory

namespace Opens

theorem nonempty (opens : tree.Opens root place) : root ≠ "" := (locate_ok opens.located).1

theorem leads (opens : tree.Opens root place) : tree.Leads root place :=
  .of_locate opens.located opens.directory

theorem keep (opens : tree.Opens root place) (keeps : tree.KeepsWays other) :
    other.Opens root place :=
  ⟨(keeps.leads opens.leads).locate opens.nonempty, keeps.directory _ opens.directory⟩

theorem of_isDirectory (standing : tree.isDirectory root = true) : ∃ place, tree.Opens root place := by
  obtain ⟨nonempty, place, leads, directory⟩ := isDirectory_iff.mp standing
  exact ⟨place, leads.locate nonempty, directory⟩

theorem isDirectory (opens : tree.Opens root place) : tree.isDirectory root = true :=
  isDirectory_iff.mpr ⟨opens.nonempty, place, opens.leads, opens.directory⟩

theorem slash (tree : FileTree) : tree.Opens "/" [] :=
  ⟨tree.leads_slash.locate (by decide), rfl⟩

end Opens

/-! ### New directories -/

/-- What is put where nothing stood displaces nothing. -/
theorem at?_put_of_some {other : TreeLocation} {new node : Node}
    (nothing : tree.at? location = none) (standing : tree.at? other = some node) :
    (tree.put location new).at? other = some node := by
  rw [at?_put _ (IsFree.ne_nil (Or.inl nothing)), if_neg, standing]
  rintro rfl
  cases nothing.symm.trans standing

/-- A tree in which directories were made, and nothing else happened. -/
structure Paved (before after : FileTree) : Prop where
  workingDirectory : after.workingDirectory = before.workingDirectory
  kept : ∀ location node, before.at? location = some node → after.at? location = some node
  new : ∀ location node, after.at? location = some node →
    before.at? location = some node ∨ node = .directory
  distinct : before.Distinct → after.Distinct

namespace Paved

theorem refl (tree : FileTree) : tree.Paved tree :=
  ⟨rfl, fun _ _ => id, fun _ _ => Or.inl, id⟩

theorem trans (first : tree.Paved other) (second : other.Paved third) : tree.Paved third where
  workingDirectory := second.workingDirectory.trans first.workingDirectory
  kept location node standing := second.kept _ _ (first.kept _ _ standing)
  new location node standing := by
    rcases second.new _ _ standing with old | new
    · exact first.new _ _ old
    · exact Or.inr new
  distinct apart := second.distinct (first.distinct apart)

theorem put (nothing : tree.at? location = none) : tree.Paved (tree.put location .directory) where
  workingDirectory := put_workingDirectory _ _ _
  kept _ _ standing := at?_put_of_some nothing standing
  new _ _ standing :=
    (of_at?_put (IsFree.ne_nil (Or.inl nothing)) standing).imp_right And.right
  distinct apart := apart.put _ _

theorem keepsWays (paved : tree.Paved other) : tree.KeepsWays other :=
  ⟨paved.workingDirectory, fun _ => paved.kept _ _, fun _ _ => paved.kept _ _⟩

/-- No file is made. -/
theorem file_iff (paved : tree.Paved other) {content : ByteArray} :
    other.at? location = some (.file content) ↔ tree.at? location = some (.file content) := by
  refine ⟨fun here => ?_, paved.kept _ _⟩
  rcases paved.new _ _ here with old | directory
  · exact old
  · cases directory

/-- What could be read before can be read after. -/
theorem read (paved : tree.Paved other) {content : ByteArray}
    (held : tree.read path = .ok content) : other.read path = .ok content := by
  rw [read_eq_ok] at held ⊢
  obtain ⟨place, located, standing⟩ := held
  have still := paved.kept _ _ standing
  exact ⟨place, paved.keepsWays.locate located fun _ => Or.inr ⟨content, still⟩, still⟩

end Paved

theorem paved_makeDirectory (done : tree.makeDirectory path = .ok other) :
    tree.Paved other ∧ other.nodes.length ≤ tree.nodes.length + 1 := by
  obtain ⟨location, -, nothing, rfl⟩ := eq_put_of_makeDirectory done
  refine ⟨.put nothing, ?_⟩
  rw [nodes_put]
  exact length_putKeyed_le _ _ _

theorem paved_makeBelow (absolute : Bool) (names : List String) :
    tree.Paved (tree.makeBelow absolute names).2 ∧
      (tree.makeBelow absolute names).2.nodes.length ≤ tree.nodes.length + names.length := by
  induction names with
  | nil => exact ⟨.refl tree, Nat.le_refl _⟩
  | cons part above ih =>
    simp only [makeBelow, List.length_cons]
    split
    next direct =>
      obtain ⟨paved, few⟩ := paved_makeDirectory direct
      exact ⟨paved, by dsimp only; omega⟩
    -- those above it are made first
    next =>
      split
      next below =>
        rw [below] at ih
        exact ⟨ih.1, by have := ih.2; dsimp only at this ⊢; omega⟩
      next between below =>
        rw [below] at ih
        obtain ⟨paved, few⟩ := ih
        dsimp only at few
        split
        next last =>
          obtain ⟨paved', few'⟩ := paved_makeDirectory last
          exact ⟨paved.trans paved', by dsimp only; omega⟩
        next =>
          split
          · exact ⟨paved, by dsimp only; omega⟩
          · exact ⟨paved, by dsimp only; omega⟩
    next =>
      split
      · exact ⟨.refl tree, by dsimp only; omega⟩
      · exact ⟨.refl tree, by dsimp only; omega⟩

/-- Making directories adds nothing but directories, and no more of them than the path has parts. -/
theorem paved_makeDirectories (tree : FileTree) (path : String) :
    tree.Paved (tree.makeDirectories path).2 ∧
      (tree.makeDirectories path).2.nodes.length ≤ tree.nodes.length + (Path.parts path).length := by
  have made := @paved_makeBelow tree (Path.isAbsolute path) (Path.parts path).reverse
  rw [List.length_reverse] at made
  exact made

/-- A directory that was made is open: its path holds nothing that no path can hold. -/
theorem Rooted.opens_of_makeDirectories (rooted : tree.Rooted) (nonempty : path ≠ "")
    (done : tree.makeDirectories path = (.ok (), other)) :
    other.Rooted ∧ ∃ place, other.Opens path place := by
  have noNul : '\x00' ∉ path.toList := by
    intro nul
    obtain ⟨part, member, inside⟩ := Path.mem_parts_of_mem nul (by decide) (by decide)
    -- the directory is there under the path of the parts
    have standing := (rooted.of_makeBelow done).2 (by simpa using List.ne_nil_of_mem member)
    rw [List.reverse_reverse] at standing
    obtain ⟨-, place, leads, -⟩ := isDirectory_iff.mp standing
    exact leads.noNul (Path.mem_ofParts_of_mem member inside _)
  have same : tree.makeDirectories (Path.ofParts (Path.isAbsolute path) (Path.parts path)) =
      (.ok (), other) := (makeDirectories_ofParts path).trans done
  obtain ⟨rooted', place, leads⟩ := rooted.of_makeDirectories noNul same
  exact ⟨rooted', place, leads.locate nonempty, rooted'.directory_of_leads leads⟩

/-- The tree once a directory was asked for at a path. -/
def withDirectory (tree : FileTree) (path : String) : FileTree :=
  match tree.inspect path with
  | .ok _ => tree
  | .error _ => (tree.makeDirectories path).2

theorem paved_withDirectory (tree : FileTree) (path : String) :
    tree.Paved (tree.withDirectory path) ∧
      (tree.withDirectory path).nodes.length ≤ tree.nodes.length + (Path.parts path).length := by
  unfold withDirectory
  split
  · exact ⟨.refl tree, by omega⟩
  · exact paved_makeDirectories tree path

/-! ### New files -/

/-- A tree to which files were added, in places of a certain kind only, and nothing else
happened. -/
structure Gains (allowed : TreeLocation → Prop) (before after : FileTree) : Prop where
  workingDirectory : after.workingDirectory = before.workingDirectory
  kept : ∀ location node, before.at? location = some node → after.at? location = some node
  new : ∀ location node, after.at? location = some node →
    before.at? location = some node ∨ (∃ content, node = .file content) ∧ allowed location

namespace Gains

variable {allowed : TreeLocation → Prop}

theorem refl (allowed : TreeLocation → Prop) (tree : FileTree) : tree.Gains allowed tree :=
  ⟨rfl, fun _ _ => id, fun _ _ => Or.inl⟩

theorem trans (first : Gains allowed tree other) (second : Gains allowed other third) :
    Gains allowed tree third where
  workingDirectory := second.workingDirectory.trans first.workingDirectory
  kept location node standing := second.kept _ _ (first.kept _ _ standing)
  new location node standing := by
    rcases second.new _ _ standing with old | new
    · exact first.new _ _ old
    · exact Or.inr new

/-- A file is put in an allowed place where nothing stood. -/
theorem put (nothing : tree.at? location = none) (allows : allowed location)
    (content : ByteArray) : Gains allowed tree (tree.put location (.file content)) where
  workingDirectory := put_workingDirectory _ _ _
  kept _ _ standing := at?_put_of_some nothing standing
  new other node standing := by
    rcases of_at?_put (IsFree.ne_nil (Or.inl nothing)) standing with old | ⟨rfl, rfl⟩
    · exact Or.inl old
    · exact Or.inr ⟨⟨content, rfl⟩, allows⟩

/-- Where nothing stands in the end, nothing stood in the beginning. -/
theorem nothing (gains : Gains allowed tree other) (nothing : other.at? location = none) :
    tree.at? location = none := by
  cases standing : tree.at? location with
  | none => rfl
  | some node => cases nothing.symm.trans (gains.kept _ _ standing)

end Gains

/-! ### Files that come and go -/

/-- A tree in which files came and went, each kind in certain places only, and nothing else
happened. -/
structure Changes (goes comes : TreeLocation → Prop) (before after : FileTree) : Prop where
  workingDirectory : after.workingDirectory = before.workingDirectory
  kept : ∀ location node, before.at? location = some node →
    after.at? location = some node ∨ (∃ content, node = .file content) ∧ goes location
  new : ∀ location node, after.at? location = some node →
    before.at? location = some node ∨ (∃ content, node = .file content) ∧ comes location

theorem Gains.changes {goes comes : TreeLocation → Prop} (gains : Gains comes tree other) :
    Changes goes comes tree other :=
  ⟨gains.workingDirectory, fun _ _ standing => Or.inl (gains.kept _ _ standing), gains.new⟩

namespace Changes

variable {goes comes goes' comes' : TreeLocation → Prop}

theorem refl (goes comes : TreeLocation → Prop) (tree : FileTree) : Changes goes comes tree tree :=
  (Gains.refl comes tree).changes

theorem trans (first : Changes goes comes tree other) (second : Changes goes comes other third) :
    Changes goes comes tree third where
  workingDirectory := second.workingDirectory.trans first.workingDirectory
  kept location node standing := by
    rcases first.kept _ _ standing with still | gone
    · exact second.kept _ _ still
    · exact Or.inr gone
  new location node standing := by
    rcases second.new _ _ standing with old | new
    · exact first.new _ _ old
    · exact Or.inr new

theorem mono (changes : Changes goes comes tree other) (more : ∀ place, goes place → goes' place)
    (more' : ∀ place, comes place → comes' place) : Changes goes' comes' tree other where
  workingDirectory := changes.workingDirectory
  kept location _ standing :=
    (changes.kept _ _ standing).imp_right (And.imp_right (more location))
  new location _ standing :=
    (changes.new _ _ standing).imp_right (And.imp_right (more' location))

/-- A file is erased where files may go. -/
theorem erase {content : ByteArray} (standing : tree.at? location = some (.file content))
    (allows : goes location) : Changes goes comes tree (tree.erase location) where
  workingDirectory := erase_workingDirectory _ _
  kept other node here := by
    rw [at?_erase _ (IsFree.ne_nil (Or.inr ⟨content, standing⟩))]
    split
    next same =>
      subst same
      exact Or.inr ⟨⟨content, Option.some.inj (here.symm.trans standing)⟩, allows⟩
    · exact Or.inl here
  new other node here :=
    Or.inl (of_at?_erase (IsFree.ne_nil (Or.inr ⟨content, standing⟩)) here)

theorem sameWays (changes : Changes goes comes tree other) : tree.SameWays other :=
  ⟨.of_files changes.workingDirectory fun location node standing =>
      (changes.kept location node standing).imp_right And.left,
    .of_files changes.workingDirectory.symm fun location node standing =>
      (changes.new location node standing).imp_right And.left⟩

/-- A path that leads to none of the places is read as before. -/
theorem read_iff (changes : Changes goes comes tree other)
    (apart : ∀ place, tree.locate true path = .ok place → ¬ goes place ∧ ¬ comes place)
    {content : ByteArray} : other.read path = .ok content ↔ tree.read path = .ok content := by
  refine changes.sameWays.read_iff fun place located => ⟨fun here => ?_, fun standing => ?_⟩
  · exact (changes.new _ _ here).resolve_right fun new => (apart place located).2 new.2
  · exact (changes.kept _ _ standing).resolve_right fun gone => (apart place located).1 gone.2

end Changes

theorem Gains.sameWays {allowed : TreeLocation → Prop} (gains : Gains allowed tree other) :
    tree.SameWays other :=
  have changes : Changes (fun _ => False) allowed tree other := gains.changes
  changes.sameWays

end FileTree

end CameraRoll
