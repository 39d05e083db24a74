import CameraRoll.Proofs.Disk.Walk

/-!
Well-formed trees, in which everything stands in a directory, and the directories that are made in
them. Main statements: `Rooted.of_makeDirectories`, by which a directory that was made is there, and
`Rooted.makeDirectories_of_leads`, by which nothing happens if it is there already.
-/

namespace CameraRoll

namespace FileTree

variable {tree made : FileTree} {path : String} {place location : TreeLocation}

/-- Everything stands in a directory, and so does whoever uses the tree. -/
structure Rooted (tree : FileTree) : Prop where
  working : tree.at? tree.workingDirectory = some .directory
  above : ∀ location entry, tree.at? (location ++ [entry]) ≠ none →
    tree.at? location = some .directory

namespace Rooted

theorem start (rooted : tree.Rooted) (path : String) :
    tree.at? (tree.start path) = some .directory := by
  unfold FileTree.start
  split
  · rfl
  · exact rooted.working

theorem dropLast (rooted : tree.Rooted) (directory : tree.at? location = some .directory) :
    tree.at? location.dropLast = some .directory := by
  rcases List.eq_nil_or_concat location with rfl | ⟨front, last, rfl⟩
  · rfl
  · rw [List.concat_eq_append] at directory ⊢
    rw [List.dropLast_concat]
    exact rooted.above front last (by simp [directory])

theorem put (rooted : tree.Rooted) {entry : EntryName}
    (above : tree.at? location = some .directory)
    (noDirectory : tree.at? (location ++ [entry]) ≠ some .directory) (node : Node) :
    (tree.put (location ++ [entry]) node).Rooted where
  working := by
    rw [put_workingDirectory, at?_put _ (by simp), if_neg, rooted.working]
    intro same
    exact noDirectory (same ▸ rooted.working)
  above other name present := by
    -- a directory stays what it is
    have kept {place : TreeLocation} (directory : tree.at? place = some .directory) :
        (tree.put (location ++ [entry]) node).at? place = some .directory := by
      rw [at?_put _ (by simp), if_neg, directory]
      rintro rfl
      exact noDirectory directory
    rw [at?_put _ (by simp)] at present
    split at present
    next same =>
      obtain ⟨rfl, -⟩ := List.append_inj' same rfl
      exact kept above
    next => exact kept (rooted.above other name present)

theorem erase (rooted : tree.Rooted) (noDirectory : tree.at? location ≠ some .directory) :
    (tree.erase location).Rooted := by
  have below : location ≠ [] := by
    rintro rfl
    exact noDirectory rfl
  -- a directory stays what it is
  have kept {place : TreeLocation} (directory : tree.at? place = some .directory) :
      (tree.erase location).at? place = some .directory := by
    rw [at?_erase _ below, if_neg, directory]
    rintro rfl
    exact noDirectory directory
  refine ⟨kept rooted.working, fun other name present => ?_⟩
  rw [at?_erase _ below] at present
  split at present
  next => exact absurd rfl present
  next => exact kept (rooted.above other name present)

/-- Steps from a directory lead into a directory. -/
theorem directory_of_enters (rooted : tree.Rooted) {links left : Nat} {here : TreeLocation}
    {front : List Step} (enters : Enters tree links here front left place)
    (directory : tree.at? here = some .directory) : tree.at? place = some .directory := by
  induction enters with
  | here => exact directory
  | stay _ ih => exact ih directory
  | up _ ih => exact ih (rooted.dropLast directory)
  | into _ standing _ ih => exact ih standing
  | along _ _ _ _ _ target ih =>
    refine ih (target ?_)
    split
    · rfl
    · exact directory

theorem directory_of_leads (rooted : tree.Rooted) (leads : tree.Leads path place) :
    tree.at? place = some .directory := by
  obtain ⟨-, left, enters⟩ := leads
  exact rooted.directory_of_enters enters (rooted.start path)

end Rooted

theorem isDirectory_iff : tree.isDirectory path = true ↔
    path ≠ "" ∧ ∃ place, tree.Leads path place ∧ tree.at? place = some .directory := by
  rw [← inspect_directory_iff]
  unfold isDirectory
  split
  next inspected => simp [inspected]
  next other => simpa using other

/-! ### Making directories -/

/-- What a path leads to is there, also if its last link is not followed. -/
theorem Enters.walk_false {links left : Nat} {here : TreeLocation} {front : List Step}
    (enters : Enters tree links here front left place)
    (directory : tree.at? place = some .directory) :
    ∃ location, tree.walk false links here front = .ok location ∧ tree.at? location ≠ none := by
  induction enters with
  | here => exact ⟨_, by rw [walk], by simp [directory]⟩
  | stay _ ih =>
    rw [walk]
    exact ih directory
  | up _ ih =>
    rw [walk]
    exact ih directory
  | into short standing _ ih =>
    rw [walk, if_neg (by omega)]
    simp only [standing]
    exact ih directory
  | @along links between left here middle place name target rest short standing named first second
      toMiddle toPlace =>
    rw [walk, if_neg (by omega)]
    simp only [standing]
    -- a link in the last place is where the walk ends
    by_cases last : rest = []
    · rw [if_pos (by simp [last])]
      exact ⟨_, rfl, by simp [standing]⟩
    · rw [if_neg (by simp [last]), if_neg (by simp [named])]
      rw [first.walk_append false last]
      exact toPlace directory

theorem makeDirectory_of_isDirectory (standing : tree.isDirectory path = true) :
    tree.makeDirectory path = .error .alreadyExists := by
  obtain ⟨nonempty, place, ⟨noNul, left, enters⟩, directory⟩ := isDirectory_iff.mp standing
  rw [← filter_steps] at enters
  obtain ⟨location, walked, present⟩ := enters.of_filter_stay.walk_false directory
  rw [← locate_eq tree false nonempty noNul] at walked
  rw [makeDirectory_of_locate walked]
  split
  next => rfl
  next none => exact absurd none present

theorem makeBelow_of_isDirectory {absolute : Bool} {names : List String}
    (standing : tree.isDirectory (Path.ofParts absolute names.reverse) = true) :
    tree.makeBelow absolute names = (.ok (), tree) := by
  cases names with
  | nil => rfl
  | cons part above =>
    rw [makeBelow, makeDirectory_of_isDirectory standing]
    exact if_pos standing

theorem Rooted.of_makeDirectory (rooted : tree.Rooted)
    (done : tree.makeDirectory path = .ok made) :
    made.Rooted ∧ made.isDirectory path = true := by
  obtain ⟨location, located, nothing, rfl⟩ := eq_put_of_makeDirectory done
  obtain ⟨nonempty, noNul⟩ := locate_ok located
  rw [locate_eq tree false nonempty noNul] at located
  rcases walk_cases located with ⟨left, enters⟩ | ⟨-, last⟩
  · -- a walk does not end in a directory that is not there
    have directory := rooted.directory_of_enters enters (rooted.start path)
    simp [nothing] at directory
  · obtain ⟨front, left, above, name, split, enters, rfl, short⟩ := last rfl
    have directory := rooted.directory_of_enters enters (rooted.start path)
    have standing : (tree.put (above ++ [name]) .directory).at? (above ++ [name]) =
        some .directory := by simp [at?_put]
    -- the way to the directory above is still there, and one more step leads in
    have entered := (enters.put (Or.inl nothing) .directory).append (.into short standing .here)
    rw [← split] at entered
    refine ⟨rooted.put directory (by simp [nothing]) _, isDirectory_iff.mpr
      ⟨nonempty, above ++ [name], ⟨noNul, left, ?_⟩, standing⟩⟩
    rw [← filter_steps, FileTree.start, put_workingDirectory]
    exact entered.filter_stay

/-- A directory that was made is there. -/
theorem Rooted.of_makeBelow (rooted : tree.Rooted) {absolute : Bool} {names : List String}
    (done : tree.makeBelow absolute names = (.ok (), made)) :
    made.Rooted ∧
      (names ≠ [] → made.isDirectory (Path.ofParts absolute names.reverse) = true) := by
  induction names generalizing tree made with
  | nil =>
    cases done
    exact ⟨rooted, fun some => absurd rfl some⟩
  | cons part above ih =>
    simp only [makeBelow] at done
    split at done
    next direct =>
      cases done
      exact (rooted.of_makeDirectory direct).imp_right fun standing _ => standing
    -- those above it are made first
    next =>
      split at done
      · cases done
      next between below =>
        obtain ⟨rooted, -⟩ := ih rooted below
        split at done
        next last =>
          cases done
          exact (rooted.of_makeDirectory last).imp_right fun standing _ => standing
        next =>
          split at done
          next standing =>
            cases done
            exact ⟨rooted, fun _ => standing⟩
          next => cases done
    -- what could not be made may be there
    next =>
      split at done
      next standing =>
        cases done
        exact ⟨rooted, fun _ => standing⟩
      next => cases done

/-! ### The directory of a path -/

section Directory

variable {front directory name : String}

/-- A path leads where the path of its parts does. -/
theorem leads_ofParts_iff (noNul : '\x00' ∉ front.toList) :
    tree.Leads (Path.ofParts (Path.isAbsolute front) (Path.parts front)) place ↔
      tree.Leads front place := by
  have clear : '\x00' ∉ (Path.ofParts (Path.isAbsolute front) (Path.parts front)).toList := by
    intro inside
    rcases Path.mem_ofParts inside with slash | ⟨part, member, inside⟩
    · cases slash
    · exact noNul (Path.mem_of_mem_parts member inside)
  have sameStart : tree.start (Path.ofParts (Path.isAbsolute front) (Path.parts front)) =
      tree.start front := by
    rw [start, start, Path.isAbsolute_ofParts_parts]
  constructor
  · rintro ⟨-, left, enters⟩
    rw [Path.parts_ofParts_parts, sameStart] at enters
    exact ⟨noNul, left, enters⟩
  · rintro ⟨-, left, enters⟩
    refine ⟨clear, left, ?_⟩
    rwa [Path.parts_ofParts_parts, sameStart]

theorem makeDirectories_ofParts (front : String) :
    tree.makeDirectories (Path.ofParts (Path.isAbsolute front) (Path.parts front)) =
      tree.makeBelow (Path.isAbsolute front) (Path.parts front).reverse := by
  rw [makeDirectories, Path.isAbsolute_ofParts_parts, Path.parts_ofParts_parts]

/-- After the directory of a path was made, the path leads there. -/
theorem Rooted.of_makeDirectories (rooted : tree.Rooted) (noNul : '\x00' ∉ front.toList)
    (done : tree.makeDirectories (Path.ofParts (Path.isAbsolute front) (Path.parts front)) =
      (.ok (), made)) : made.Rooted ∧ ∃ place, made.Leads front place := by
  rw [makeDirectories_ofParts] at done
  obtain ⟨rooted', standing⟩ := rooted.of_makeBelow done
  refine ⟨rooted', ?_⟩
  by_cases none : Path.parts front = []
  · -- a path without parts is the root or the working directory
    exact ⟨made.start front, noNul, maxLinks, by rw [none]; exact .here⟩
  · rw [List.reverse_reverse] at standing
    obtain ⟨-, place, leads, -⟩ := isDirectory_iff.mp (standing (by simpa using none))
    exact ⟨place, (leads_ofParts_iff noNul).mp leads⟩

/-- Nothing happens to a directory that is there already. -/
theorem Rooted.makeDirectories_of_leads (rooted : tree.Rooted) (leads : tree.Leads front place) :
    tree.makeDirectories (Path.ofParts (Path.isAbsolute front) (Path.parts front)) =
      (.ok (), tree) := by
  rw [makeDirectories_ofParts]
  by_cases none : Path.parts front = []
  · rw [none]
    rfl
  · refine makeBelow_of_isDirectory (isDirectory_iff.mpr ⟨?_, place, ?_, ?_⟩)
    · intro empty
      have same := Path.parts_ofParts_parts (Path.isAbsolute front) front
      rw [List.reverse_reverse] at empty
      rw [empty] at same
      exact none same.symm
    · rw [List.reverse_reverse]
      exact (leads_ofParts_iff leads.noNul).mpr leads
    · exact rooted.directory_of_leads leads

end Directory

end FileTree

end CameraRoll
