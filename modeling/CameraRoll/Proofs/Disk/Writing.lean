import CameraRoll.Proofs.Disk.Growth

/-!
What a file that is written leaves in a tree. Links are followed to the place of the file, so that
it stands where nothing or a file stood, and no way changes. Main statements: `Rooted.of_write` for
that place, and `Rooted.read_of_write`, by which the file is read at the path it was written to.
-/

namespace CameraRoll

namespace FileTree

namespace Rooted

variable {tree changed : FileTree} {path : String} {place : TreeLocation} {content : ByteArray}

/-- A walk that follows links ends at none, and if not at a directory then in one. -/
theorem walk_true_cases (rooted : tree.Rooted) {links : Nat} {here : TreeLocation}
    {steps : List Step} (directory : tree.at? here = some .directory)
    (arrived : tree.walk true links here steps = .ok place) :
    tree.at? place = some .directory ∨
      tree.IsFree place ∧ tree.at? place.dropLast = some .directory := by
  generalize followed : true = follow at arrived
  fun_induction FileTree.walk tree follow links here steps
  case case1 links here =>
    cases arrived
    exact Or.inl directory
  case case2 links here rest ih => exact ih directory arrived
  case case3 links here rest ih => exact ih (rooted.dropLast directory) arrived
  case case7 links here name rest there long standing ih => exact ih standing arrived
  case case13 here name rest there long target standing onward named links ih =>
    refine ih ?_ arrived
    split
    · rfl
    · exact directory
  -- the last step leads to nothing or to a file
  case case5 links here name rest there long nothing last =>
    obtain rfl : there = place := Except.ok.inj arrived
    exact Or.inr ⟨Or.inl nothing, by rwa [List.dropLast_concat]⟩
  case case8 links here name rest there long content standing last =>
    obtain rfl : there = place := Except.ok.inj arrived
    exact Or.inr ⟨Or.inr ⟨content, standing⟩, by rwa [List.dropLast_concat]⟩
  case case10 links here name rest there long target standing last =>
    simp [← followed] at last
  -- all others are failures
  all_goals cases arrived

theorem locate_true_cases (rooted : tree.Rooted) (located : tree.locate true path = .ok place) :
    tree.at? place = some .directory ∨
      tree.IsFree place ∧ tree.at? place.dropLast = some .directory := by
  obtain ⟨nonempty, noNul⟩ := locate_ok located
  rw [locate_eq tree true nonempty noNul] at located
  exact rooted.walk_true_cases (rooted.start path) located

/-- A file is written where nothing or a file stood. -/
theorem of_write (rooted : tree.Rooted) (written : tree.write path content = .ok changed) :
    ∃ place, tree.locate true path = .ok place ∧ tree.IsFree place ∧
      changed = tree.put place (.file content) := by
  obtain ⟨place, located, noDirectory, rfl⟩ := eq_put_of_write written
  exact ⟨place, located, ((rooted.locate_true_cases located).resolve_left noDirectory).1, rfl⟩

/-- A file that is written stands in a directory. -/
theorem write (rooted : tree.Rooted) (written : tree.write path content = .ok changed) :
    changed.Rooted := by
  obtain ⟨place, located, noDirectory, rfl⟩ := eq_put_of_write written
  obtain ⟨-, above⟩ := (rooted.locate_true_cases located).resolve_left noDirectory
  rcases List.eq_nil_or_concat place with rfl | ⟨initial, last, rfl⟩
  · exact absurd rfl noDirectory
  · rw [List.concat_eq_append] at noDirectory above ⊢
    rw [List.dropLast_concat] at above
    exact rooted.put above noDirectory _

/-- A file that was written is read. -/
theorem read_of_write (rooted : tree.Rooted) (written : tree.write path content = .ok changed) :
    changed.read path = .ok content := by
  obtain ⟨place, located, free, rfl⟩ := rooted.of_write written
  have standing : (tree.put place (.file content)).at? place = some (.file content) := by
    rw [at?_put _ free.ne_nil, if_pos rfl]
  have still := (KeepsWays.put free (.file content)).locate located fun _ => Or.inr ⟨_, standing⟩
  exact read_eq_ok.mpr ⟨place, still, standing⟩

end Rooted

end FileTree

end CameraRoll
