import CameraRoll.Proofs.Naming.Succession
import CameraRoll.Proofs.Store.Held

/-!
Storing a file under a free name. Main statements: `save_cases`, that the file gets a free name
that follows the one asked for or nothing changes, and `save_accepted`, that without failures in
the way only a search without end is left to go wrong.
-/

namespace CameraRoll.Resolver

open CameraRoll.Naming

variable {W : Type}

theorem exists_authoritative (resolver : Resolver (StateM W)) :
    ∃ store, resolver.store? resolver.authoritative = some store := by
  unfold authoritative hasExternal
  cases outside : resolver.external with
  | none => exact ⟨resolver.internal, rfl⟩
  | some store => exact ⟨store, outside⟩

/-! ### The search for a free name -/

section Search

variable {store : Store (StateM W)} {w : W}

/-- A search ends at the first name that can be created, at the first failure that is not about a
taken name, or after all names it tries. -/
theorem createFree_cases
    (quiet : ∀ file e after, outcome (store.create file .empty) w = (.error e, after) → after = w)
    (name : String) (attempts : Nat) (candidate : String) :
    (∃ n < attempts, ∃ info after,
      (∀ m < n, ∃ other, outcome (store.create (nextName^[m] candidate) .empty) w =
        (.error (.alreadyExists other), w)) ∧
      outcome (store.create (nextName^[n] candidate) .empty) w = (.ok info, after) ∧
      outcome (createFree store name attempts candidate) w = (.ok info, after)) ∨
    (∃ n < attempts, ∃ e, (∀ other, e ≠ .alreadyExists other) ∧
      outcome (store.create (nextName^[n] candidate) .empty) w = (.error e, w) ∧
      outcome (createFree store name attempts candidate) w = (.error (.storage e), w)) ∨
    ((∀ n < attempts, ∃ other, outcome (store.create (nextName^[n] candidate) .empty) w =
        (.error (.alreadyExists other), w)) ∧
      outcome (createFree store name attempts candidate) w = (.error (.noFreeName name), w)) := by
  -- by induction on the attempts left, from the candidate of each attempt on
  induction attempts generalizing candidate with
  | zero => exact Or.inr (Or.inr ⟨fun n few => absurd few n.not_lt_zero, rfl⟩)
  | succ attempts ih =>
    rw [createFree, outcome_bind, outcome_liftM, run_run]
    dsimp only
    cases tried : outcome (store.create candidate .empty) w with
    | mk answer after =>
      cases answer with
      | ok info =>
        exact Or.inl ⟨0, attempts.succ_pos, info, after, fun m few => absurd few m.not_lt_zero,
          tried, rfl⟩
      | error e =>
        obtain rfl := quiet candidate e after tried
        by_cases taken : ∃ other, e = .alreadyExists other
        · obtain ⟨other, rfl⟩ := taken
          -- every name tried from here on is one further behind the candidate
          have earlier {n : Nat} (before : ∀ m < n, ∃ other,
              outcome (store.create (nextName^[m] (nextName candidate)) .empty) after =
                (.error (.alreadyExists other), after)) :
              ∀ m < n + 1, ∃ other, outcome (store.create (nextName^[m] candidate) .empty) after =
                (.error (.alreadyExists other), after) := by
            intro m few
            cases m with
            | zero => exact ⟨other, tried⟩
            | succ m => exact before m (Nat.lt_of_succ_lt_succ few)
          rcases ih (nextName candidate) with
            ⟨n, few, info, last, before, created, done⟩ | ⟨n, few, e, apart, failed, done⟩ |
            ⟨all, done⟩
          · exact Or.inl ⟨n + 1, Nat.succ_lt_succ few, info, last, earlier before, created, done⟩
          · exact Or.inr (Or.inl ⟨n + 1, Nat.succ_lt_succ few, e, apart, failed, done⟩)
          · exact Or.inr (Or.inr ⟨earlier all, done⟩)
        · refine Or.inr (Or.inl ⟨0, attempts.succ_pos, e, fun other same => taken ⟨other, same⟩,
            tried, ?_⟩)
          cases e with
          | alreadyExists other => exact absurd ⟨other, rfl⟩ taken
          | _ => rfl

end Search

/-! ### Storing a file -/

section Storing

variable {store : Store (StateM W)} {w : W} {resolver : Resolver (StateM W)} {location : Location}

theorem outcome_require (here : resolver.store? location = some store) (w : W) :
    outcome (resolver.require location) w = (.ok store, w) := by
  unfold require
  rw [here]
  rfl

theorem save_of_createFree_error (here : resolver.store? location = some store) {name : String}
    {after : W} {e : ResolverError}
    (failed : outcome (createFree store name nameCount name) w = (.error e, after))
    (content : ByteArray) :
    outcome (resolver.save location name content) w = (.error e, after) := by
  rw [save, outcome_bind_ok (outcome_require here w), outcome_bind_error failed]

private theorem save_created (here : resolver.store? location = some store) {name free : String}
    {content : ByteArray} {size : Nat} {between after : W}
    (created : outcome (createFree store name nameCount name) w = (.ok ⟨free, size⟩, between))
    (filled : outcome (fill store free content) between = (.ok (), after))
    (seen : outcome (store.stat free) after = (.ok ⟨free, content.size⟩, after)) :
    outcome (resolver.save location name content) w =
      (.ok ⟨location, free, content.size⟩, after) := by
  rw [save, outcome_bind_ok (outcome_require here w), outcome_bind_ok created,
    outcome_bind_ok filled]
  exact outcome_bind_ok (outcome_adapt_ok seen ResolverError.storage) _

/-- If a created file is always filled or taken back, a file is stored under the first name from the
one asked for on that is not refused as taken, or nothing changes. -/
theorem save_of_create (here : resolver.store? location = some store) (name : String)
    (content : ByteArray) (free : String → Prop) (stored : String → W)
    (quiet : ∀ file e after, outcome (store.create file .empty) w = (.error e, after) → after = w)
    (made : ∀ file info after, outcome (store.create file .empty) w = (.ok info, after) →
      info.name = file ∧ free file ∧
      ((∃ e, outcome (fill store file content) after = (.error e, w)) ∨
        outcome (fill store file content) after = (.ok (), stored file) ∧
        outcome (store.stat file) (stored file) = (.ok ⟨file, content.size⟩, stored file))) :
    (∃ e, outcome (resolver.save location name content) w = (.error e, w)) ∨
    ∃ n, (∀ m < n, ∃ other, outcome (store.create (nextName^[m] name) .empty) w =
        (.error (.alreadyExists other), w)) ∧
      free (nextName^[n] name) ∧
      outcome (resolver.save location name content) w =
        (.ok ⟨location, nextName^[n] name, content.size⟩, stored (nextName^[n] name)) := by
  rcases createFree_cases quiet name nameCount name with
    ⟨n, -, ⟨file, size⟩, between, earlier, tried, created⟩ | ⟨n, -, e, -, -, failed⟩ | ⟨-, failed⟩
  -- the search has left an empty file behind, which is filled next
  · obtain ⟨rfl, isFree, ⟨e, unfilled⟩ | ⟨filled, seen⟩⟩ := made _ _ _ tried
    · refine Or.inl ⟨e, ?_⟩
      rw [save, outcome_bind_ok (outcome_require here w), outcome_bind_ok created,
        outcome_bind_error unfilled]
    · exact Or.inr ⟨n, earlier, isFree, save_created here created filled seen⟩
  · exact Or.inl ⟨_, save_of_createFree_error here failed content⟩
  · exact Or.inl ⟨_, save_of_createFree_error here failed content⟩

end Storing

section Save

variable {store : Store (StateM W)} {part : Part W MemoryStore} {w : W}

theorem create_quiet (holds : store.Holds part) (regular : (part.get w).Regular) (file : String)
    (e : StoreError) (after : W)
    (failed : outcome (store.create file .empty) w = (.error e, after)) : after = w := by
  rcases holds.create w file .empty regular with ⟨_, same⟩ | ⟨_, _, done⟩
  · exact (Prod.mk.inj (failed.symm.trans same)).2
  · cases (Prod.mk.inj (failed.symm.trans done)).1

/-- A created file is filled, or taken back. -/
theorem fill_cases (holds : store.Holds part) (regular : (part.get w).Regular) {name : String}
    (valid : isValidName name = true) (free : (part.get w).find? name = none)
    (content : ByteArray) :
    (∃ e, outcome (store.write name content) (part.set ((part.get w).put name .empty) w) =
        (.error e, part.set ((part.get w).put name .empty) w) ∧
      outcome (fill store name content) (part.set ((part.get w).put name .empty) w) =
        (.error (.storage e), w)) ∨
    outcome (fill store name content) (part.set ((part.get w).put name .empty) w) =
      (.ok (), part.set ((part.get w).put name content) w) := by
  have created : part.get (part.set ((part.get w).put name .empty) w) =
      (part.get w).put name .empty := part.get_set _ _
  have regular' : (part.get (part.set ((part.get w).put name .empty) w)).Regular := by
    rw [created]
    exact regular.put valid .empty
  have present : (part.get (part.set ((part.get w).put name .empty) w)).find? name =
      some .empty := by rw [created, MemoryStore.find?_put_self]
  rcases holds.write _ name content regular' with ⟨e, failed⟩ | ⟨-, done⟩
  · refine Or.inl ⟨e, failed, ?_⟩
    -- the empty file goes, and with it all that has changed
    rw [fill, outcome_bind, outcome_liftM, run_run, failed]
    dsimp only
    rw [outcome_bind, outcome_attempt, holds.delete _ name .empty regular' present, part.set_set,
      created, MemoryStore.erase_put free, part.set_get]
    rfl
  · refine Or.inr ?_
    rw [fill, outcome_bind, outcome_liftM, run_run, done, part.set_set, created,
      MemoryStore.put_put free]
    rfl

variable {resolver : Resolver (StateM W)} {location : Location}

/-- A file that was stored is seen with its size. -/
private theorem stat_stored (holds : store.Holds part) (regular : (part.get w).Regular)
    {name : String} (valid : isValidName name = true) (content : ByteArray) :
    outcome (store.stat name) (part.set ((part.get w).put name content) w) =
      (.ok ⟨name, content.size⟩, part.set ((part.get w).put name content) w) := by
  refine holds.stat _ name content ?_ ?_
  · rw [part.get_set]
    exact regular.put valid content
  · rw [part.get_set, MemoryStore.find?_put_self]

/-- A file is stored under the first name from the one asked for on that is not refused as taken, or
nothing changes. -/
theorem save_searched (holds : store.Holds part) (regular : (part.get w).Regular)
    (here : resolver.store? location = some store) (name : String) (content : ByteArray) :
    (∃ e, outcome (resolver.save location name content) w = (.error e, w)) ∨
    ∃ n, (∀ m < n, ∃ other, outcome (store.create (nextName^[m] name) .empty) w =
        (.error (.alreadyExists other), w)) ∧
      isValidName (nextName^[n] name) = true ∧
      (part.get w).find? (nextName^[n] name) = none ∧
      outcome (resolver.save location name content) w =
        (.ok ⟨location, nextName^[n] name, content.size⟩,
          part.set ((part.get w).put (nextName^[n] name) content) w) := by
  have searched := save_of_create here name content
    (fun file => isValidName file = true ∧ (part.get w).find? file = none)
    (fun file => part.set ((part.get w).put file content) w) (create_quiet holds regular) <| by
      intro file info after tried
      rcases holds.create w file .empty regular with ⟨e, refused⟩ | ⟨valid, free, done⟩
      · cases (Prod.mk.inj (tried.symm.trans refused)).1
      · cases tried.symm.trans done
        refine ⟨rfl, ⟨valid, free⟩, ?_⟩
        rcases fill_cases holds regular valid free content with ⟨e, -, unfilled⟩ | filled
        · exact Or.inl ⟨_, unfilled⟩
        · exact Or.inr ⟨filled, stat_stored holds regular valid content⟩
  rcases searched with failed | ⟨n, earlier, ⟨valid, free⟩, done⟩
  · exact Or.inl failed
  · exact Or.inr ⟨n, earlier, valid, free, done⟩

/-- A file is stored under a free name that follows the one asked for, or nothing changes. -/
theorem save_cases (holds : store.Holds part) (regular : (part.get w).Regular)
    (here : resolver.store? location = some store) (name : String) (content : ByteArray) :
    (∃ e, outcome (resolver.save location name content) w = (.error e, w)) ∨
    ∃ n, isValidName (nextName^[n] name) = true ∧
      (part.get w).find? (nextName^[n] name) = none ∧
      outcome (resolver.save location name content) w =
        (.ok ⟨location, nextName^[n] name, content.size⟩,
          part.set ((part.get w).put (nextName^[n] name) content) w) := by
  rcases save_searched holds regular here name content with failed | ⟨n, -, done⟩
  · exact Or.inl failed
  · exact Or.inr ⟨n, done⟩

/-- If the store refuses nothing, a file with a valid name is stored, or every name that follows is
taken and the search for a free one has no end. -/
theorem save_accepted (holds : store.Holds part) (regular : (part.get w).Regular)
    (accepts : store.Accepts part w) (here : resolver.store? location = some store) {name : String}
    (valid : isValidName name = true) (content : ByteArray) :
    (∃ file after, outcome (resolver.save location name content) w = (.ok file, after)) ∨
    (outcome (resolver.save location name content) w = (.error (.noFreeName name), w) ∧
      ∀ n, ((part.get w).find? (nextName^[n] name)).isSome = true) := by
  rcases createFree_cases (create_quiet holds regular) name nameCount name with
    ⟨n, -, info, after, -, tried, created⟩ | ⟨n, -, e, apart, tried, -⟩ | ⟨all, failed⟩
  · rcases holds.create w (nextName^[n] name) .empty regular with
      ⟨e, refused⟩ | ⟨valid', free, done⟩
    · cases (Prod.mk.inj (tried.symm.trans refused)).1
    · rw [tried] at done
      simp only [Prod.mk.injEq, Except.ok.injEq] at done
      obtain ⟨rfl, rfl⟩ := done
      rcases fill_cases holds regular valid' free content with ⟨e, refused, -⟩ | filled
      -- a created file cannot be left unfilled
      · obtain ⟨after, written⟩ := accepts.write (nextName^[n] name) content
          ((part.get w).put (nextName^[n] name) .empty) valid' (MemoryStore.put_faults _ _ _)
        cases (Prod.mk.inj (written.symm.trans refused)).1
      · exact Or.inl ⟨_, _, save_created here created filled
          (stat_stored holds regular valid' content)⟩
  -- a refusal for another reason than a taken name
  · have valid' := isValidName_iterate_nextName valid n
    cases found : (part.get w).find? (nextName^[n] name) with
    | none =>
      obtain ⟨info, after, done⟩ := accepts.create (nextName^[n] name) .empty valid' found
      cases (Prod.mk.inj (tried.symm.trans done)).1
    | some old =>
      have taken := accepts.taken (nextName^[n] name) .empty old valid' found
      exact absurd (Except.error.inj (Prod.mk.inj (tried.symm.trans taken)).1) (apart _)
  -- all names of the search were taken, and so are all that would come after them
  · refine Or.inr ⟨?_, fun n => taken_forever (fun name => ((part.get w).find? name).isSome = true)
      (fun n few => ?_) n⟩
    · exact save_of_createFree_error here failed content
    · obtain ⟨other, refused⟩ := all n few
      cases found : (part.get w).find? (nextName^[n] name) with
      | none =>
        obtain ⟨info, after, done⟩ := accepts.create (nextName^[n] name) .empty
          (isValidName_iterate_nextName valid n) found
        cases (Prod.mk.inj (refused.symm.trans done)).1
      | some old => rfl

end Save

end CameraRoll.Resolver
