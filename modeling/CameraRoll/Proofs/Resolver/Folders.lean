import CameraRoll.Proofs.Resolver.Save
import CameraRoll.Proofs.Store.Folder

/-!
A resolver whose stores lie in directories of one tree. Main statements: `save_into`, that a file
that is stored takes a place where nothing stood or nothing changes, and `entries_from`, that a
catalog is made from files that stand in the directories.
-/

namespace CameraRoll

open CameraRoll.Naming FileTree

variable {W : Type} {part : Part W FileTree} {root : String} {place : TreeLocation} {w : W}

/-! ### Filling a file -/

namespace Store.LiesIn

variable {store : Store (StateM W)} {name : String}

theorem create_quiet (lies : store.LiesIn part root) (opens : (part.get w).Opens root place)
    (file : String) (e : StoreError) (after : W)
    (failed : outcome (store.create file .empty) w = (.error e, after)) : after = w := by
  rcases lies.create w place file .empty opens with ⟨_, same, -⟩ | ⟨_, _, done⟩
  · exact (Prod.mk.inj (failed.symm.trans same)).2
  · cases (Prod.mk.inj (failed.symm.trans done)).1

/-- A name is refused as taken only if something stands there. -/
theorem standing_of_taken (lies : store.LiesIn part root) (opens : (part.get w).Opens root place)
    (file other : String) {after : W}
    (refused : outcome (store.create file .empty) w = (.error (.alreadyExists other), after)) :
    (part.get w).at? (entryAt place file) ≠ none := by
  rcases lies.create w place file .empty opens with ⟨e, failed, taken⟩ | ⟨_, _, done⟩
  · exact taken ⟨other, Except.error.inj (Prod.mk.inj (failed.symm.trans refused)).1⟩
  · cases (Prod.mk.inj (refused.symm.trans done)).1

/-- A created file is filled, or taken back. -/
theorem fill_cases (lies : store.LiesIn part root) (opens : (part.get w).Opens root place)
    (fits : IsEntryName name) (free : (part.get w).at? (entryAt place name) = none)
    (content : ByteArray) :
    (∃ e, outcome (Resolver.fill store name content)
        (part.set ((part.get w).put (entryAt place name) (.file .empty)) w) = (.error e, w)) ∨
    outcome (Resolver.fill store name content)
        (part.set ((part.get w).put (entryAt place name) (.file .empty)) w) =
      (.ok (), part.set ((part.get w).put (entryAt place name) (.file content)) w) := by
  have below := entryAt_ne_nil place name
  let between := part.set ((part.get w).put (entryAt place name) (.file .empty)) w
  have created : part.get between = (part.get w).put (entryAt place name) (.file .empty) :=
    part.get_set _ _
  have opens' : (part.get between).Opens root place := by
    rw [created]
    exact opens.keep (.put (Or.inl free) _)
  have standing : (part.get between).at? (entryAt place name) = some (.file .empty) := by
    rw [created, at?_put _ below, if_pos rfl]
  change (∃ e, outcome (Resolver.fill store name content) between = (.error e, w)) ∨
    outcome (Resolver.fill store name content) between = _
  rw [Resolver.fill, outcome_bind, outcome_liftM, run_run]
  rcases lies.write between place name content .empty opens' fits standing with ⟨e, failed⟩ | done
  -- the empty file goes, and with it all that has changed
  · refine Or.inl ⟨.storage e, ?_⟩
    rw [failed]
    dsimp only
    rw [outcome_bind, outcome_attempt]
    rcases lies.delete between place name .empty opens' standing with ⟨_, -, unfit⟩ | done
    · exact absurd fits unfit
    · rw [done, created, erase_put below free, part.set_set, part.set_get]
      rfl
  · rw [done, created, put_put below free, part.set_set]
    exact Or.inr rfl

end Store.LiesIn

/-! ### Locations as directories -/

namespace Resolver

variable {resolver : Resolver (StateM W)} {place : Location → TreeLocation} {location : Location}

/-- The stores of a resolver lie in directories of a tree, and these are their places. -/
def LodgesIn (resolver : Resolver (StateM W)) (part : Part W FileTree)
    (place : Location → TreeLocation) (tree : FileTree) : Prop :=
  ∀ location store, resolver.store? location = some store →
    ∃ root, store.LiesIn part root ∧ tree.Opens root (place location)

theorem LodgesIn.keep {tree other : FileTree} (lodges : resolver.LodgesIn part place tree)
    (keeps : tree.KeepsWays other) : resolver.LodgesIn part place other := by
  intro location store here
  obtain ⟨root, lies, opens⟩ := lodges location store here
  exact ⟨root, lies, opens.keep keeps⟩

/-- A file stands where its location and its name say. -/
def Stands (place : Location → TreeLocation) (tree : FileTree) (file : StoredFile) : Prop :=
  ∃ content, tree.at? (entryAt (place file.location) file.name) = some (.file content)

variable (lodges : resolver.LodgesIn part place (part.get w))
include lodges

/-- A file is stored under the first name from the one asked for on under which nothing stands, or
nothing changes. -/
theorem save_into (location : Location) (name : String) (content : ByteArray) :
    (∃ e, outcome (resolver.save location name content) w = (.error e, w)) ∨
    ∃ n, (∀ m < n, (part.get w).at? (entryAt (place location) (nextName^[m] name)) ≠ none) ∧
      (part.get w).at? (entryAt (place location) (nextName^[n] name)) = none ∧
      outcome (resolver.save location name content) w =
        (.ok ⟨location, nextName^[n] name, content.size⟩,
          part.set ((part.get w).put (entryAt (place location) (nextName^[n] name))
            (.file content)) w) := by
  cases here : resolver.store? location with
  | none =>
    refine Or.inl ⟨.absent location, ?_⟩
    rw [save, require, here]
    rfl
  | some store =>
    obtain ⟨root, lies, opens⟩ := lodges location store here
    have searched := save_of_create here name content
      (fun file => (part.get w).at? (entryAt (place location) file) = none)
      (fun file => part.set ((part.get w).put (entryAt (place location) file) (.file content)) w)
      (lies.create_quiet opens) <| by
        intro file info after tried
        -- a name that can be created fits, so that the file can be filled, or taken back, and looked at
        rcases lies.create w _ file .empty opens with ⟨e, refused, -⟩ | ⟨fits, free, done⟩
        · cases (Prod.mk.inj (tried.symm.trans refused)).1
        · cases tried.symm.trans done
          refine ⟨rfl, free, ?_⟩
          rcases lies.fill_cases opens fits free content with unfilled | filled
          · exact Or.inl unfilled
          · refine Or.inr ⟨filled, lies.stat _ (place location) file content ?_ fits ?_⟩
            · rw [part.get_set]
              exact opens.keep (.put (Or.inl free) _)
            · rw [part.get_set, at?_put _ (entryAt_ne_nil _ _), if_pos rfl]
    rcases searched with failed | ⟨n, earlier, free, done⟩
    · exact Or.inl failed
    · refine Or.inr ⟨n, fun m few => ?_, free, done⟩
      obtain ⟨other, refused⟩ := earlier m few
      exact lies.standing_of_taken opens _ other refused

/-- A file that stands there is taken away, or nothing changes. -/
theorem remove_from {file : StoredFile} (stands : Stands place (part.get w) file) :
    (∃ e, outcome (resolver.remove file) w = (.error e, w)) ∨
    outcome (resolver.remove file) w = (.ok (),
      part.set ((part.get w).erase (entryAt (place file.location) file.name)) w) := by
  unfold remove require
  split
  next store here =>
    rw [pure_bind]
    obtain ⟨root, lies, opens⟩ := lodges _ store here
    obtain ⟨content, standing⟩ := stands
    rcases lies.delete w _ file.name content opens standing with ⟨e, failed, -⟩ | done
    · exact Or.inl ⟨_, outcome_adapt_error failed _⟩
    · exact Or.inr (outcome_adapt_ok done _)
  · exact Or.inl ⟨_, rfl⟩

theorem read_from (file : StoredFile) : (outcome (resolver.read file) w).2 = w := by
  unfold read require
  split
  next store here =>
    rw [pure_bind]
    obtain ⟨root, lies, -⟩ := lodges _ store here
    exact lies.read w file.name
  · rfl

/-- A file that stands there is never said to be gone. -/
theorem contains_in {file : StoredFile} (here : file.location = resolver.authoritative)
    (stands : Stands place (part.get w) file) :
    (∃ e, outcome (resolver.contains file) w = (.error e, w)) ∨
      outcome (resolver.contains file) w = (.ok true, w) := by
  obtain ⟨store, isStore⟩ := exists_authoritative resolver
  rw [← here] at isStore
  obtain ⟨root, lies, opens⟩ := lodges _ store isStore
  obtain ⟨content, standing⟩ := stands
  unfold contains
  rw [isStore]
  rcases lies.contains w _ file.name content opens standing with ⟨e, failed⟩ | found
  · exact Or.inl ⟨_, outcome_adapt_error failed _⟩
  · exact Or.inr (outcome_adapt_ok found _)

/-! ### Entries -/

theorem enumerate_from (distinct : (part.get w).Distinct) (location : Location) :
    ∃ files, outcome (resolver.enumerate location) w = (.ok files, w) ∧
      ∀ file ∈ files, file.location = location ∧ Stands place (part.get w) file := by
  unfold enumerate
  cases here : resolver.store? location with
  | none => exact ⟨[], rfl, fun _ member => by cases member⟩
  | some store =>
    obtain ⟨root, lies, opens⟩ := lodges location store here
    refine ⟨_, outcome_bind_ok (outcome_adapt_ok (lies.list w _ opens) _) _, fun file member => ?_⟩
    obtain ⟨info, isInfo, rfl⟩ := List.mem_map.mp member
    obtain ⟨stored, isStored, rfl⟩ := List.mem_map.mp isInfo
    refine ⟨rfl, stored.2, ?_⟩
    have found := lookup_of_mem (DirectoryStore.nodup_filesIn distinct _) isStored
    rw [DirectoryStore.lookup_filesIn distinct] at found
    split at found
    next content standing =>
      cases found
      exact standing
    · cases found

/-- A catalog is made from primary files of the authoritative location and thumbnails inside, and
all of them stand there. -/
theorem entries_from (distinct : (part.get w).Distinct) :
    ∃ entries, outcome resolver.entries w = (.ok entries, w) ∧
      (∀ file ∈ entries.pictures, file.location = resolver.authoritative ∧
        resolver.isPrimary file = true ∧ Stands place (part.get w) file) ∧
      ∀ file ∈ entries.thumbnails, file.location = .internal ∧ file.isThumbnail = true ∧
        Stands place (part.get w) file := by
  obtain ⟨inside, listed, areInside⟩ := enumerate_from lodges distinct .internal
  obtain ⟨outside, listed', areOutside⟩ := enumerate_from lodges distinct .external
  refine ⟨_, by rw [entries, outcome_bind_ok listed, outcome_bind_ok listed', outcome_pure], ?_, ?_⟩
  · intro file member
    obtain ⟨among, primary⟩ := List.mem_filter.mp member
    unfold authoritative
    split at among
    next external =>
      rw [if_pos external]
      exact ⟨(areOutside file among).1, primary, (areOutside file among).2⟩
    next alone =>
      rw [if_neg alone]
      exact ⟨(areInside file among).1, primary, (areInside file among).2⟩
  · intro file member
    obtain ⟨among, isThumbnail⟩ := List.mem_filter.mp member
    exact ⟨(areInside file among).1, isThumbnail, (areInside file among).2⟩

end Resolver

end CameraRoll
