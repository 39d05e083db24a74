import CameraRoll.Proofs.Outcome
import CameraRoll.Proofs.Store.Files
import CameraRoll.Store.Quota

/-!
Stores whose files are those of a store in memory, with a quota or without. Main statements:
`MemoryStore.operations_holds` and `Store.Holds.withQuota`, and `MemoryStore.operations_accepts` for
a store without failures in the way.
-/

namespace CameraRoll

variable {W : Type}

/-- A store answers from the files of a store in memory that is a part of the world, and changes
nothing else. Calls that store a file may be refused, and then nothing changes. -/
structure Store.Holds (store : Store (StateM W)) (part : Part W MemoryStore) : Prop where
  list : ∀ w, (part.get w).Regular →
    outcome store.list w = (.ok ((part.get w).files.map fun file => ⟨file.1, file.2.size⟩), w)
  contains : ∀ w name, (part.get w).Regular →
    outcome (store.contains name) w = (.ok ((part.get w).find? name).isSome, w) ∨
    (isValidName name = false ∧
      outcome (store.contains name) w = (.error (.invalidName name), w))
  read : ∀ w name content, (part.get w).Regular → (part.get w).find? name = some content →
    outcome (store.read name) w = (.ok content, w)
  write : ∀ w name content, (part.get w).Regular →
    (∃ e, outcome (store.write name content) w = (.error e, w)) ∨
    (isValidName name = true ∧ outcome (store.write name content) w =
      (.ok (), part.set ((part.get w).put name content) w))
  create : ∀ w name content, (part.get w).Regular →
    (∃ e, outcome (store.create name content) w = (.error e, w)) ∨
    (isValidName name = true ∧ (part.get w).find? name = none ∧
      outcome (store.create name content) w =
        (.ok ⟨name, content.size⟩, part.set ((part.get w).put name content) w))
  delete : ∀ w name content, (part.get w).Regular → (part.get w).find? name = some content →
    outcome (store.delete name) w = (.ok (), part.set ((part.get w).erase name) w)
  stat : ∀ w name content, (part.get w).Regular → (part.get w).find? name = some content →
    outcome (store.stat name) w = (.ok ⟨name, content.size⟩, w)
  /-- Of a file that is not there nothing can be had. -/
  missing : ∀ w name, (part.get w).Regular → (part.get w).find? name = none →
    (∃ e, outcome (store.read name) w = (.error e, w)) ∧
    (∃ e, outcome (store.delete name) w = (.error e, w)) ∧
    ∃ e, outcome (store.stat name) w = (.error e, w)

/-- In a world, a store refuses to store a file only because its name is taken or not valid. -/
structure Store.Accepts (store : Store (StateM W)) (part : Part W MemoryStore) (w : W) : Prop where
  create : ∀ name content, isValidName name = true → (part.get w).find? name = none →
    ∃ info after, outcome (store.create name content) w = (.ok info, after)
  taken : ∀ name content old, isValidName name = true → (part.get w).find? name = some old →
    outcome (store.create name content) w = (.error (.alreadyExists name), w)
  write : ∀ name content changed, isValidName name = true →
    changed.faults = (part.get w).faults →
    ∃ after, outcome (store.write name content) (part.set changed w) = (.ok (), after)

namespace MemoryStore

theorem outcome_part {α : Type} (part : Part W MemoryStore) (act : Call α) (w : W) :
    outcome (ExceptT.mk (part.run act.run)) w =
      ((outcome act (part.get w)).1, part.set (outcome act (part.get w)).2 w) := rfl

variable {α : Type} {kind : StoreCall} {name : String} {store : MemoryStore}

private theorem outcome_call (work : MemoryStore → Except StoreError (α × MemoryStore)) :
    outcome (call kind name work) store =
      match store.check kind name with
      | .error e => (Except.error e, store)
      | .ok () => match work store with
        | .error e => (Except.error e, store)
        | .ok (a, changed) => (Except.ok a, changed) := rfl

theorem outcome_call_refused {e : StoreError} (refused : store.check kind name = .error e)
    (work : MemoryStore → Except StoreError (α × MemoryStore)) :
    outcome (call kind name work) store = (.error e, store) := by
  rw [outcome_call, refused]

theorem outcome_call_error {e : StoreError} (passed : store.check kind name = .ok ())
    {work : MemoryStore → Except StoreError (α × MemoryStore)} (failed : work store = .error e) :
    outcome (call kind name work) store = (.error e, store) := by
  rw [outcome_call, passed, failed]

theorem outcome_call_ok {a : α} {changed : MemoryStore} (passed : store.check kind name = .ok ())
    {work : MemoryStore → Except StoreError (α × MemoryStore)}
    (done : work store = .ok (a, changed)) :
    outcome (call kind name work) store = (.ok a, changed) := by
  rw [outcome_call, passed, done]

/-- No failure stands in the way of a call that stores no file. -/
theorem Regular.failure?_eq_none {store : MemoryStore} (regular : store.Regular) {kind : StoreCall}
    (noWrite : kind ≠ .write) (noCreate : kind ≠ .create) (name : String) :
    store.failure? kind name = none := by
  -- a failure for this name or for every name is one of this call
  have apart : ∀ fault ∈ store.faults, fault.call ≠ kind := by
    intro fault member same
    rcases regular.faults fault member with write | create
    · exact noWrite (same.symm.trans write)
    · exact noCreate (same.symm.trans create)
  have never (p : Fault → Bool) :
      (store.faults.find? fun fault => fault.call = kind && p fault) = none :=
    List.find?_eq_none.mpr fun fault member => by simp [apart fault member]
  simp [failure?, never]

theorem Regular.check_eq_ok {store : MemoryStore} (regular : store.Regular) {kind : StoreCall}
    (noWrite : kind ≠ .write) (noCreate : kind ≠ .create) {name : String}
    (valid : isValidName name = true) : store.check kind name = .ok () := by
  simp [check, valid, regular.failure?_eq_none noWrite noCreate]

theorem Regular.isValidName_of_find? {store : MemoryStore} (regular : store.Regular)
    {name : String} {content : ByteArray} (found : store.find? name = some content) :
    isValidName name = true :=
  regular.valid (name, content) (mem_of_find? found)

theorem isValidName_of_check {store : MemoryStore} {kind : StoreCall} {name : String}
    (passed : store.check kind name = .ok ()) : isValidName name = true := by
  unfold check at passed
  split at passed
  · cases passed
  next valid => simpa using valid

/-- A call is refused for its name or because of a failure in its way. -/
theorem error_of_check {store : MemoryStore} {kind : StoreCall} {name : String} {e : StoreError}
    (refused : store.check kind name = .error e) :
    e = .invalidName name ∨ ∃ fault ∈ store.faults, e = fault.error name := by
  unfold check at refused
  split at refused
  · exact Or.inl (Except.error.inj refused).symm
  · split at refused
    next failing =>
      obtain ⟨fault, found, rfl⟩ := Option.map_eq_some_iff.mp failing
      refine Or.inr ⟨fault, ?_, (Except.error.inj refused).symm⟩
      rcases Option.or_eq_some_iff.mp found with first | ⟨-, second⟩
      · exact List.mem_of_find?_eq_some first
      · exact List.mem_of_find?_eq_some second
    · cases refused

/-! ### The calls -/

theorem outcome_listCall (regular : store.Regular) :
    outcome listCall store =
      (.ok (store.files.map fun file => ⟨file.1, file.2.size⟩), store) := by
  have passed : store.failure? .list "" = none :=
    regular.failure?_eq_none (by decide) (by decide) ""
  simp only [outcome, listCall, ExceptT.run, ExceptT.mk, StateT.run]
  rw [passed]

theorem outcome_containsCall (regular : store.Regular) (name : String) :
    outcome (containsCall name) store = (.ok (store.find? name).isSome, store) ∨
    (isValidName name = false ∧
      outcome (containsCall name) store = (.error (.invalidName name), store)) := by
  unfold containsCall
  cases valid : isValidName name with
  | true =>
    exact Or.inl (outcome_call_ok (regular.check_eq_ok (by decide) (by decide) valid) rfl)
  | false =>
    exact Or.inr ⟨rfl, outcome_call_refused (by simp [check, valid]) _⟩

variable {content : ByteArray}

theorem outcome_readCall (regular : store.Regular) (found : store.find? name = some content) :
    outcome (readCall name) store = (.ok content, store) := by
  have valid := regular.isValidName_of_find? found
  unfold readCall
  exact outcome_call_ok (regular.check_eq_ok (by decide) (by decide) valid) (by simp only [found])

theorem outcome_deleteCall (regular : store.Regular) (found : store.find? name = some content) :
    outcome (deleteCall name) store = (.ok (), store.erase name) := by
  have valid := regular.isValidName_of_find? found
  unfold deleteCall
  exact outcome_call_ok (regular.check_eq_ok (by decide) (by decide) valid) (by simp only [found])

theorem outcome_statCall (regular : store.Regular) (found : store.find? name = some content) :
    outcome (statCall name) store = (.ok ⟨name, content.size⟩, store) := by
  have valid := regular.isValidName_of_find? found
  unfold statCall
  exact outcome_call_ok (regular.check_eq_ok (by decide) (by decide) valid) (by simp only [found])

private theorem outcome_call_missing {work : MemoryStore → Except StoreError (α × MemoryStore)}
    (failed : work store = .error (.notFound name)) :
    ∃ e, outcome (call kind name work) store = (.error e, store) := by
  cases checked : store.check kind name with
  | error e => exact ⟨e, outcome_call_refused checked work⟩
  | ok _ => exact ⟨_, outcome_call_error checked failed⟩

theorem outcome_writeCall (store : MemoryStore) (name : String) (content : ByteArray) :
    (∃ e, outcome (writeCall name content) store = (.error e, store)) ∨
    (isValidName name = true ∧
      outcome (writeCall name content) store = (.ok (), store.put name content)) := by
  unfold writeCall
  cases checked : store.check .write name with
  | error e => exact Or.inl ⟨e, outcome_call_refused checked _⟩
  | ok _ => exact Or.inr ⟨isValidName_of_check checked, outcome_call_ok checked rfl⟩

theorem outcome_createCall (store : MemoryStore) (name : String) (content : ByteArray) :
    (∃ e, outcome (createCall name content) store = (.error e, store)) ∨
    (isValidName name = true ∧ store.find? name = none ∧
      outcome (createCall name content) store =
        (.ok ⟨name, content.size⟩, store.put name content)) := by
  unfold createCall
  cases checked : store.check .create name with
  | error e => exact Or.inl ⟨e, outcome_call_refused checked _⟩
  | ok _ =>
    cases found : store.find? name with
    | some old =>
      exact Or.inl ⟨.alreadyExists name, outcome_call_error checked (by simp only [found])⟩
    | none =>
      exact Or.inr ⟨isValidName_of_check checked, rfl,
        outcome_call_ok checked (by simp only [found])⟩

/-! ### The store -/

variable (part : Part W MemoryStore)

private theorem outcome_look {act : Call α} {w : W} {answer : Except StoreError α}
    (looked : outcome act (part.get w) = (answer, part.get w)) :
    outcome (ExceptT.mk (part.run act.run)) w = (answer, w) := by
  rw [outcome_part, looked, part.set_get]

private theorem outcome_change {act : Call α} {w : W} {answer : Except StoreError α}
    {changed : MemoryStore} (done : outcome act (part.get w) = (answer, changed)) :
    outcome (ExceptT.mk (part.run act.run)) w = (answer, part.set changed w) := by
  rw [outcome_part, done]

/-- A store in memory holds its files. -/
theorem operations_holds (label : String) (url : Option String) :
    (operations part label url).Holds part where
  list w regular := outcome_look part (outcome_listCall regular)
  contains w file regular := by
    rcases outcome_containsCall regular file with answered | ⟨invalid, refused⟩
    · exact Or.inl (outcome_look part answered)
    · exact Or.inr ⟨invalid, outcome_look part refused⟩
  read w file content regular found := outcome_look part (outcome_readCall regular found)
  write w file content regular := by
    rcases outcome_writeCall (part.get w) file content with ⟨e, failed⟩ | ⟨valid, done⟩
    · exact Or.inl ⟨e, outcome_look part failed⟩
    · exact Or.inr ⟨valid, outcome_change part done⟩
  create w file content regular := by
    rcases outcome_createCall (part.get w) file content with ⟨e, failed⟩ | ⟨valid, free, done⟩
    · exact Or.inl ⟨e, outcome_look part failed⟩
    · exact Or.inr ⟨valid, free, outcome_change part done⟩
  delete w file content regular found := outcome_change part (outcome_deleteCall regular found)
  stat w file content regular found := outcome_look part (outcome_statCall regular found)
  missing w file regular absent := by
    refine ⟨?_, ?_, ?_⟩
    · obtain ⟨e, failed⟩ : ∃ e, outcome (readCall file) (part.get w) = (.error e, part.get w) :=
        outcome_call_missing (by simp only [absent])
      exact ⟨e, outcome_look part failed⟩
    · obtain ⟨e, failed⟩ : ∃ e, outcome (deleteCall file) (part.get w) = (.error e, part.get w) :=
        outcome_call_missing (by simp only [absent])
      exact ⟨e, outcome_look part failed⟩
    · obtain ⟨e, failed⟩ : ∃ e, outcome (statCall file) (part.get w) = (.error e, part.get w) :=
        outcome_call_missing (by simp only [absent])
      exact ⟨e, outcome_look part failed⟩

theorem check_eq_ok_of_clear (clear : store.faults = []) (valid : isValidName name = true) :
    store.check kind name = .ok () := by
  simp [check, valid, failure?, clear]

/-- A store in memory without failures in the way accepts what it is given. -/
theorem operations_accepts {w : W} (clear : (part.get w).faults = []) (label : String)
    (url : Option String) : (operations part label url).Accepts part w where
  create file content valid free := by
    have done : outcome (createCall file content) (part.get w) =
        (.ok ⟨file, content.size⟩, (part.get w).put file content) := by
      unfold createCall
      exact outcome_call_ok (check_eq_ok_of_clear clear valid) (by simp only [free])
    exact ⟨_, _, outcome_change part done⟩
  taken file content old valid found := by
    have failed : outcome (createCall file content) (part.get w) =
        (.error (.alreadyExists file), part.get w) := by
      unfold createCall
      exact outcome_call_error (check_eq_ok_of_clear clear valid) (by simp only [found])
    exact outcome_look part failed
  write file content changed valid same := by
    have done : outcome (writeCall file content) (part.get (part.set changed w)) =
        (.ok (), changed.put file content) := by
      rw [part.get_set]
      unfold writeCall
      exact outcome_call_ok (check_eq_ok_of_clear (same.trans clear) valid) rfl
    exact ⟨_, outcome_change part done⟩

end MemoryStore

namespace Store.Holds

variable {store : Store (StateM W)} {part : Part W MemoryStore}

private theorem ensureFits_cases (holds : store.Holds part) (quota : Nat) (name : String)
    (size : Nat) {w : W} (regular : (part.get w).Regular) :
    (∃ e, outcome (Quota.ensureFits store quota name size) w = (.error e, w)) ∨
    outcome (Quota.ensureFits store quota name size) w = (.ok (), w) := by
  unfold Quota.ensureFits
  rw [outcome_bind, holds.list w regular]
  dsimp only
  split
  next e _ => exact Or.inl ⟨e, rfl⟩
  · exact Or.inr rfl

/-- A store with a quota holds the files of the store below. -/
theorem withQuota (holds : store.Holds part) (quota : Nat) :
    (store.withQuota quota).Holds part where
  list := holds.list
  contains := holds.contains
  read := holds.read
  delete := holds.delete
  stat := holds.stat
  missing := holds.missing
  write w name content regular := by
    simp only [Store.withQuota, outcome_bind]
    rcases ensureFits_cases holds quota name content.size regular with ⟨e, refused⟩ | fits
    · exact Or.inl ⟨e, by rw [refused]⟩
    · rw [fits]
      exact holds.write w name content regular
  create w name content regular := by
    simp only [Store.withQuota, outcome_bind]
    rcases ensureFits_cases holds quota name content.size regular with ⟨e, refused⟩ | fits
    · exact Or.inl ⟨e, by rw [refused]⟩
    · rw [fits]
      exact holds.create w name content regular

/-! ### What the calls keep -/

section Keeping

variable {I : W → Prop} (holds : store.Holds part) (regular : ∀ w, I w → (part.get w).Regular)
include holds regular

theorem keeps_list : Keeps I store.list := by
  intro w h
  rw [holds.list w (regular w h)]
  exact h

theorem keeps_contains (name : String) : Keeps I (store.contains name) := by
  intro w h
  rcases holds.contains w name (regular w h) with answered | ⟨-, refused⟩
  · rw [answered]
    exact h
  · rw [refused]
    exact h

theorem keeps_read (name : String) : Keeps I (store.read name) := by
  intro w h
  cases found : (part.get w).find? name with
  | none =>
    obtain ⟨⟨e, failed⟩, -, -⟩ := holds.missing w name (regular w h) found
    rw [failed]
    exact h
  | some content =>
    rw [holds.read w name content (regular w h) found]
    exact h

theorem keeps_stat (name : String) : Keeps I (store.stat name) := by
  intro w h
  cases found : (part.get w).find? name with
  | none =>
    obtain ⟨-, -, e, failed⟩ := holds.missing w name (regular w h) found
    rw [failed]
    exact h
  | some content =>
    rw [holds.stat w name content (regular w h) found]
    exact h

/-- A fact that survives the storing of a file survives a write of it. -/
theorem keeps_write {name : String} {content : ByteArray}
    (stored : ∀ w, I w → isValidName name = true → I (part.set ((part.get w).put name content) w)) :
    Keeps I (store.write name content) := by
  intro w h
  rcases holds.write w name content (regular w h) with ⟨e, failed⟩ | ⟨valid, done⟩
  · rw [failed]
    exact h
  · rw [done]
    exact stored w h valid

theorem keeps_delete {name : String}
    (erased : ∀ w, I w → I (part.set ((part.get w).erase name) w)) :
    Keeps I (store.delete name) := by
  intro w h
  cases found : (part.get w).find? name with
  | none =>
    obtain ⟨-, ⟨e, failed⟩, -⟩ := holds.missing w name (regular w h) found
    rw [failed]
    exact h
  | some content =>
    rw [holds.delete w name content (regular w h) found]
    exact erased w h

end Keeping

end Store.Holds

end CameraRoll
