import CameraRoll.Proofs.Disk.Growth

/-!
Links that lead back to themselves. A walk `Meets` a location if its steps lead there, with the
links on the way replaced by their targets. Main statements: `Meets.walk_lost`, by which no number
of links is enough for a walk to a link whose target leads back to it, and `walk_moved_link`, by
which a link that is moved within its directory leads where it did.
-/

namespace CameraRoll

namespace FileTree

variable {tree : FileTree} {place location here goal : TreeLocation} {path rest : List Step}
  {entry : EntryName} {target : String}

/-- The steps of a walk lead to a location, whatever number of links is followed. -/
inductive Meets (tree : FileTree) (location : TreeLocation) : TreeLocation → List Step → Prop
  | here {here : TreeLocation} {name : EntryName} {rest : List Step} :
    here ++ [name] = location → Meets tree location here (.into name :: rest)
  | stay {here : TreeLocation} {rest : List Step} :
    Meets tree location here rest → Meets tree location here (.stay :: rest)
  | up {here : TreeLocation} {rest : List Step} :
    Meets tree location here.dropLast rest → Meets tree location here (.up :: rest)
  | into {here : TreeLocation} {name : EntryName} {rest : List Step} :
    tree.at? (here ++ [name]) = some .directory → Meets tree location (here ++ [name]) rest →
    Meets tree location here (.into name :: rest)
  | along {here : TreeLocation} {name : EntryName} {target : String} {rest : List Step} :
    tree.at? (here ++ [name]) = some (.link target) →
    Meets tree location (if Path.isAbsolute target then [] else here) (steps target ++ rest) →
    Meets tree location here (.into name :: rest)

theorem Meets.append (meets : tree.Meets location here path) (more : List Step) :
    tree.Meets location here (path ++ more) := by
  induction meets with
  | here same => exact .here same
  | stay _ ih => exact .stay ih
  | up _ ih => exact .up ih
  | into directory _ ih => exact .into directory ih
  | along link _ ih =>
    rw [List.append_assoc] at ih
    exact .along link ih

/-- A walk is given up at a link, or follows it and has one link fewer to follow. -/
theorem walk_at_link (link : tree.at? (here ++ [entry]) = some (.link target)) (links : Nat)
    (rest : List Step) :
    (∃ e, tree.walk true links here (.into entry :: rest) = .error e) ∨
      ∃ fewer, links = fewer + 1 ∧ target.isEmpty = false ∧
        tree.walk true links here (.into entry :: rest) =
          tree.walk true fewer (if Path.isAbsolute target then [] else here)
            (steps target ++ rest) := by
  rw [walk]
  split
  · exact Or.inl ⟨_, rfl⟩
  · simp only [link]
    rw [if_neg (by simp)]
    split
    · exact Or.inl ⟨_, rfl⟩
    next nonempty =>
      cases links with
      | zero => exact Or.inl ⟨_, rfl⟩
      | succ fewer => exact Or.inr ⟨fewer, rfl, by simpa using nonempty, rfl⟩

/-- If the target of a link leads back to the link, no walk gets past it. -/
theorem Meets.walk_lost (link : tree.at? (place ++ [entry]) = some (.link target))
    (loops : tree.Meets (place ++ [entry]) (if Path.isAbsolute target then [] else place)
      (steps target))
    (links : Nat) (meets : tree.Meets (place ++ [entry]) here path) :
    ∃ e, tree.walk true links here path = .error e := by
  -- each time around uses up a link
  induction links using Nat.strongRecOn generalizing here path with
  | ind links fewer =>
    induction meets with
    | @here here name rest same =>
      obtain ⟨rfl, last⟩ := List.append_inj' same rfl
      obtain rfl := List.singleton_inj.mp last
      rcases walk_at_link link links rest with lost | ⟨left, rfl, -, onward⟩
      · exact lost
      · rw [onward]
        exact fewer left (Nat.lt_succ_self left) (loops.append rest)
    | stay _ ih =>
      rw [walk]
      exact ih
    | up _ ih =>
      rw [walk]
      exact ih
    | into directory _ ih =>
      rw [walk]
      split
      · exact ⟨_, rfl⟩
      · simp only [directory]
        exact ih
    | along other inner _ =>
      rcases walk_at_link other links _ with lost | ⟨left, rfl, -, onward⟩
      · exact lost
      · rw [onward]
        exact fewer left (Nat.lt_succ_self left) inner

/-- A walk that does not come to a location is the same without what stands there. -/
theorem walk_erase (below : location ≠ []) {follow : Bool} {links : Nat}
    (apart : ¬ tree.Meets location here path) :
    (tree.erase location).walk follow links here path = tree.walk follow links here path := by
  -- each place that the walk looks at is another one
  have kept {here : TreeLocation} {name : EntryName} {rest : List Step}
      (apart : ¬ tree.Meets location here (.into name :: rest)) :
      (tree.erase location).at? (here ++ [name]) = tree.at? (here ++ [name]) := by
    rw [at?_erase _ below, if_neg fun same => apart (.here same)]
  fun_induction FileTree.walk tree follow links here path
  case case1 links here => rw [walk]
  case case2 links here rest ih =>
    rw [walk]
    exact ih fun meets => apart (.stay meets)
  case case3 links here rest ih =>
    rw [walk]
    exact ih fun meets => apart (.up meets)
  case case7 links here name rest there long standing ih =>
    rw [walk, if_neg long, kept apart]
    simp only [show tree.at? (here ++ [name]) = _ from standing]
    exact ih fun meets => apart (.into standing meets)
  case case13 here name rest there long target standing onward named links ih =>
    rw [walk, if_neg long, kept apart]
    simp only [show tree.at? (here ++ [name]) = _ from standing]
    rw [if_neg onward, if_neg named]
    exact ih fun meets => apart (.along standing meets)
  case case11 here name rest there long target standing onward named =>
    rw [walk, if_neg long, kept apart]
    simp only [show tree.at? (here ++ [name]) = _ from standing]
    rw [if_neg onward, if_pos named]
  case case12 here name rest there long target standing onward named =>
    rw [walk, if_neg long, kept apart]
    simp only [show tree.at? (here ++ [name]) = _ from standing]
    rw [if_neg onward, if_neg named]
  -- all others end at a step that asks for no link
  all_goals
    rw [walk, kept apart]
    simp_all +zetaDelta

/-- A link is not needed on the way that it stands for. -/
theorem walk_behind_link (link : tree.at? (place ++ [entry]) = some (.link target)) {links : Nat}
    (arrived : tree.walk true links place [.into entry] = .ok goal) :
    ∃ fewer, links = fewer + 1 ∧ target.isEmpty = false ∧
      (tree.erase (place ++ [entry])).walk true fewer
        (if Path.isAbsolute target then [] else place) (steps target) = .ok goal := by
  rcases walk_at_link link links [] with ⟨e, lost⟩ | ⟨fewer, rfl, nonempty, onward⟩
  · cases lost.symm.trans arrived
  · rw [List.append_nil, arrived] at onward
    refine ⟨fewer, rfl, nonempty, ?_⟩
    -- if the target led back to the link, the walk would not have arrived
    rw [walk_erase (by simp) fun loops => ?_, onward]
    obtain ⟨e, lost⟩ := loops.walk_lost link fewer loops
    cases lost.symm.trans onward.symm

/-- A link that is moved within its directory leads where it did, if all other ways stay. -/
theorem walk_moved_link {moved : FileTree} {entry' : EntryName}
    (link : tree.at? (place ++ [entry]) = some (.link target)) {links : Nat}
    (arrived : tree.walk true links place [.into entry] = .ok goal)
    (short : entry'.length ≤ EntryName.maxLength)
    (link' : moved.at? (place ++ [entry']) = some (.link target))
    (keeps : (tree.erase (place ++ [entry])).KeepsWays moved) (free : moved.IsFree goal) :
    moved.walk true links place [.into entry'] = .ok goal := by
  obtain ⟨fewer, rfl, nonempty, behind⟩ := walk_behind_link link arrived
  rw [walk_link short link' nonempty]
  exact keeps.walk behind fun _ => free

end FileTree

end CameraRoll
