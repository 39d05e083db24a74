import CameraRoll.Disk.Tree
import CameraRoll.Proofs.Keyed

/-!
What stands where in a tree of files, after something was put there or taken away. Main statements:
`at?_put` and `at?_erase`, and `mem_children`, by which the entries of a directory are what stands
right below it.
-/

namespace CameraRoll

theorem fromUTF8?_toUTF8 (s : String) : String.fromUTF8? s.toUTF8 = some s := by
  simp [String.fromUTF8?, String.toUTF8, s.isValidUTF8, String.fromUTF8]

theorem eq_toUTF8_of_fromUTF8? {bytes : ByteArray} {s : String}
    (read : String.fromUTF8? bytes = some s) : bytes = s.toUTF8 := by
  unfold String.fromUTF8? at read
  split at read
  · cases read
    rfl
  · cases read

namespace EntryName

/-- A text that names an entry is read back from it. -/
theorem text?_ofText (s : String) : text? (ofText s) = some s := by
  rw [text?, ofText, Array.toArray_toList]
  exact fromUTF8?_toUTF8 s

theorem eq_ofText_of_text? {name : EntryName} {s : String} (read : name.text? = some s) :
    name = ofText s := by
  rw [ofText, ← eq_toUTF8_of_fromUTF8? read]

/-- An entry other than that of a name is not read as the name. -/
theorem ne_of_text? {name : EntryName} {s t : String} (apart : name ≠ ofText t)
    (read : name.text? = some s) : s ≠ t := by
  rintro rfl
  exact apart (eq_ofText_of_text? read)

theorem ofText_injective : Function.Injective ofText := by
  intro s t same
  have read := text?_ofText s
  rw [same, text?_ofText] at read
  exact (Option.some.inj read).symm

theorem length_ofText (s : String) : (ofText s).length = s.utf8ByteSize := by
  rw [ofText, Array.length_toList]
  rfl

end EntryName

namespace FileTree

/-- Every location is entered once. -/
def Distinct (tree : FileTree) : Prop := (tree.nodes.map (·.1)).Nodup

@[simp] theorem at?_nil (tree : FileTree) : tree.at? [] = some .directory := rfl

theorem at?_of_ne_nil (tree : FileTree) {location : TreeLocation} (below : location ≠ []) :
    tree.at? location = tree.nodes.lookup location := by
  rw [at?, if_neg (by simpa using below)]

theorem nodes_put (tree : FileTree) (location : TreeLocation) (node : Node) :
    (tree.put location node).nodes = putKeyed tree.nodes location node := by
  unfold put putKeyed
  split <;> rfl

@[simp] theorem put_workingDirectory (tree : FileTree) (location : TreeLocation) (node : Node) :
    (tree.put location node).workingDirectory = tree.workingDirectory := by
  unfold put
  split <;> rfl

@[simp] theorem erase_workingDirectory (tree : FileTree) (location : TreeLocation) :
    (tree.erase location).workingDirectory = tree.workingDirectory := rfl

/-- After something was put somewhere it stands there, and everything else is as before. -/
theorem at?_put (tree : FileTree) {location : TreeLocation} (below : location ≠ []) (node : Node)
    (other : TreeLocation) :
    (tree.put location node).at? other =
      if other = location then some node else tree.at? other := by
  by_cases root : other = []
  · subst root
    simp [Ne.symm below]
  · rw [at?_of_ne_nil _ root, at?_of_ne_nil _ root, nodes_put, lookup_putKeyed]

theorem at?_erase (tree : FileTree) {location : TreeLocation} (below : location ≠ [])
    (other : TreeLocation) :
    (tree.erase location).at? other = if other = location then none else tree.at? other := by
  by_cases root : other = []
  · subst root
    simp [Ne.symm below]
  · rw [at?_of_ne_nil _ root, at?_of_ne_nil _ root]
    exact lookup_filter tree.nodes location other

/-- What stands after something was put somewhere is that, or stood before. -/
theorem of_at?_put {tree : FileTree} {location other : TreeLocation} {node standing : Node}
    (below : location ≠ []) (here : (tree.put location node).at? other = some standing) :
    tree.at? other = some standing ∨ other = location ∧ standing = node := by
  rw [at?_put _ below] at here
  split at here
  next same => exact Or.inr ⟨same, (Option.some.inj here).symm⟩
  next => exact Or.inl here

/-- What stands after something was erased stood before. -/
theorem of_at?_erase {tree : FileTree} {location other : TreeLocation} {standing : Node}
    (below : location ≠ []) (here : (tree.erase location).at? other = some standing) :
    tree.at? other = some standing := by
  rw [at?_erase _ below] at here
  split at here
  next => cases here
  next => exact here

/-- What was put where nothing stood can be taken away again. -/
theorem erase_put {tree : FileTree} {location : TreeLocation} (below : location ≠ [])
    (nothing : tree.at? location = none) (node : Node) :
    (tree.put location node).erase location = tree := by
  rw [at?_of_ne_nil _ below] at nothing
  rw [erase, nodes_put, filter_putKeyed nothing]
  exact congrArg (FileTree.mk tree.nodes) (put_workingDirectory _ _ _)

/-- What was put where nothing stood can be replaced. -/
theorem put_put {tree : FileTree} {location : TreeLocation} (below : location ≠ [])
    (nothing : tree.at? location = none) (first node : Node) :
    (tree.put location first).put location node = tree.put location node := by
  rw [at?_of_ne_nil _ below] at nothing
  have same : ∀ (changed : FileTree), changed.nodes = (tree.put location node).nodes →
      changed.workingDirectory = (tree.put location node).workingDirectory →
      changed = tree.put location node := by
    rintro ⟨nodes, directory⟩ rfl rfl
    rfl
  refine same _ ?_ ?_
  · rw [nodes_put, nodes_put, nodes_put, putKeyed_putKeyed nothing]
  · rw [put_workingDirectory, put_workingDirectory, put_workingDirectory]

theorem Distinct.put {tree : FileTree} (distinct : tree.Distinct) (location : TreeLocation)
    (node : Node) : (tree.put location node).Distinct := by
  rw [Distinct, nodes_put]
  exact nodup_putKeyed distinct location node

theorem Distinct.erase {tree : FileTree} (distinct : tree.Distinct) (location : TreeLocation) :
    (tree.erase location).Distinct := distinct.sublist (List.filter_sublist.map _)

/-! ### Entries of a directory -/

private theorem entryBelow_eq_some {place location : TreeLocation} {name : EntryName}
    {node standing : Node} :
    (match location.getLast? with
      | some last => if location.dropLast = place then some (last, standing) else none
      | none => none) = some (name, node) ↔ location = place ++ [name] ∧ standing = node := by
  rcases List.eq_nil_or_concat location with rfl | ⟨front, last, rfl⟩
  · simp
  · rw [List.concat_eq_append, List.getLast?_concat]
    dsimp only
    rw [List.dropLast_concat]
    split
    next here => simp [here]
    next elsewhere => simp [elsewhere]

/-- The entries of a directory are what stands right below it. -/
theorem mem_children {tree : FileTree} (distinct : tree.Distinct) {place : TreeLocation}
    {name : EntryName} {node : Node} :
    (name, node) ∈ tree.children place ↔ tree.at? (place ++ [name]) = some node := by
  rw [at?_of_ne_nil _ (by simp), children, List.mem_filterMap]
  constructor
  · rintro ⟨⟨location, standing⟩, member, below⟩
    obtain ⟨rfl, rfl⟩ := entryBelow_eq_some.mp below
    exact lookup_of_mem distinct member
  · exact fun found => ⟨_, mem_of_lookup found, entryBelow_eq_some.mpr ⟨rfl, rfl⟩⟩

/-- No two entries of a directory have one name. -/
theorem nodup_children {tree : FileTree} (distinct : tree.Distinct) (place : TreeLocation) :
    ((tree.children place).map (·.1)).Nodup := by
  rw [List.Nodup, List.pairwise_map, children, List.pairwise_filterMap]
  refine (List.pairwise_map.mp distinct).imp ?_
  rintro ⟨location, standing⟩ ⟨location', standing'⟩ apart ⟨name, node⟩ below ⟨name', node'⟩ below'
    rfl
  obtain ⟨rfl, -⟩ := entryBelow_eq_some.mp below
  obtain ⟨rfl, -⟩ := entryBelow_eq_some.mp below'
  exact apart rfl

end FileTree

end CameraRoll
