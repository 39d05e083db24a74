import CameraRoll.Proofs.Store.Directory
import CameraRoll.Proofs.Store.Held
import CameraRoll.Store.Quota
import Mathlib.Algebra.Order.BigOperators.Group.List
import Mathlib.Algebra.Order.Ring.Nat

/-!
What a quota does to a store of which the files are known. Main statements: `isOverQuota_iff`,
`withQuota_cases` and `size_after` for one operation, and `Quota.Base.withQuota_limits` for a store
in memory or in a directory after any number of operations.
-/

namespace CameraRoll

open Store Text

variable {W : Type}

/-! ### Counting bytes -/

namespace Quota

/-- The bytes of all these files. -/
def size (files : List (String × ByteArray)) : Nat := (files.map fun file => file.2.size).sum

/-- What a store lists of its files. -/
def listed (files : List (String × ByteArray)) : List FileInfo :=
  files.map fun file => ⟨file.1, file.2.size⟩

def beside (name : String) (files : List (String × ByteArray)) : List (String × ByteArray) :=
  files.filter fun file => file.1 ≠ name

theorem size_cons (file : String × ByteArray) (files : List (String × ByteArray)) :
    size (file :: files) = file.2.size + size files := by
  simp [size]

theorem size_perm {files others : List (String × ByteArray)} (same : files.Perm others) :
    size files = size others :=
  (same.map fun file : String × ByteArray => file.2.size).sum_nat

theorem size_beside_le (name : String) (files : List (String × ByteArray)) :
    size (beside name files) ≤ size files :=
  (List.filter_sublist.map fun file : String × ByteArray => file.2.size).sum_le_sum fun _ _ =>
    Nat.zero_le _

/-- As long as the bytes are a number of 64 bits, they are counted right. -/
theorem total_listed {files : List (String × ByteArray)} (room : size files ≤ maxWord64) :
    total (listed files) = size files := by
  induction files with
  | nil => rfl
  | cons file rest ih =>
    rw [size_cons] at room ⊢
    have counted : total (listed rest) = size rest := ih (by omega)
    -- neither this sum nor the one of the rest wraps around
    rw [listed, total, List.map_cons, List.foldr_cons]
    change (file.2.size + total (listed rest)) % (maxWord64 + 1) = _
    rw [counted, Nat.mod_eq_of_lt (by omega)]

theorem usedBeside_listed {files : List (String × ByteArray)} (room : size files ≤ maxWord64)
    (name : String) : usedBeside name (listed files) = size (beside name files) := by
  have fits := Nat.le_trans (size_beside_le name files) room
  rw [usedBeside, ← total_listed fits, listed, List.filter_map]
  rfl

theorem refusal?_listed {files : List (String × ByteArray)} (room : size files ≤ maxWord64)
    {quota : Nat} (small : quota < maxWord64) (name : String) (requested : Nat) :
    refusal? quota name requested (listed files) =
      if quota < size (beside name files) + requested then
        some (.quotaExceeded name quota (size (beside name files)) requested)
      else none := by
  rw [refusal?, usedBeside_listed room]
  -- the largest number itself is beyond every quota
  refine if_congr ?_ rfl rfl
  omega

/-- What is counted is never more than the bytes that are there. -/
theorem total_listed_le (files : List (String × ByteArray)) : total (listed files) ≤ size files := by
  induction files with
  | nil => exact Nat.le_refl 0
  | cons file rest ih =>
    have wrapped := Nat.mod_le (file.2.size + total (listed rest)) (maxWord64 + 1)
    rw [size_cons]
    exact Nat.le_trans wrapped (Nat.add_le_add_left ih _)

/-- A file that fits beside the others is not refused, whatever the quota is. -/
theorem refusal?_eq_none {files : List (String × ByteArray)} {quota : Nat} {name : String}
    {requested : Nat} (fits : size (beside name files) + requested ≤ quota) :
    refusal? quota name requested (listed files) = none := by
  have counted : usedBeside name (listed files) ≤ size (beside name files) := by
    rw [usedBeside, listed, List.filter_map]
    exact total_listed_le (beside name files)
  rw [refusal?, if_neg]
  omega

/-- The bytes of a file and those of all others are the bytes of all files. -/
theorem size_of_mem {files : List (String × ByteArray)} (distinct : (files.map (·.1)).Nodup)
    {name : String} {content : ByteArray} (member : (name, content) ∈ files) :
    size files = content.size + size (beside name files) := by
  rw [← size_cons (name, content)]
  apply size_perm
  refine perm_of_lookup distinct ?_ fun other => ?_
  · rw [List.map_cons, List.nodup_cons]
    exact ⟨by simp [beside], distinct.sublist (List.filter_sublist.map _)⟩
  · rw [lookup_cons_ite, beside, lookup_filter]
    by_cases same : other = name
    · rw [if_pos same, same]
      exact lookup_of_mem distinct member
    · rw [if_neg same, if_neg same]

end Quota

/-! ### Stores whose files are known -/

/-- What an operation can do to the files of a store. -/
inductive Store.Operation.Effect (asked : Operation) (files : List (String × ByteArray)) :
    List (String × ByteArray) → Prop
  | none : Effect asked files files
  | stored {name : String} {content : ByteArray} {after : List (String × ByteArray)} :
    asked.stores? = some (name, content) →
    after.Perm ((name, content) :: Quota.beside name files) → Effect asked files after
  | erased {name : String} {after : List (String × ByteArray)} :
    after.Perm (Quota.beside name files) → Effect asked files after

/-- A refusal for lack of room. -/
def IsOverQuota {α : Type} (answer : Except StoreError α) : Prop :=
  ∃ name quota used requested, answer = .error (.quotaExceeded name quota used requested)

/-- In sound worlds a store lists its files, does nothing to them but what it is asked for, and
knows no quota. -/
structure Store.Accounts (store : Store (StateM W)) (sound : W → Prop)
    (files : W → List (String × ByteArray)) : Prop where
  list : ∀ w, sound w → outcome store.list w = (.ok (Quota.listed (files w)), w)
  stays : ∀ w (asked : Operation), sound w → sound (outcome (store.perform asked) w).2
  effect : ∀ w (asked : Operation), sound w →
    asked.Effect (files w) (files (outcome (store.perform asked) w).2)
  unlimited : ∀ w (asked : Operation), sound w → ¬ IsOverQuota (outcome (store.perform asked) w).1

theorem isOverQuota_map {α β : Type} {answer : Except StoreError α} (f : α → β) :
    IsOverQuota (answer.map f) ↔ IsOverQuota answer := by
  cases answer <;> simp [IsOverQuota, Except.map]

namespace Store.Accounts

variable {store : Store (StateM W)} {sound : W → Prop} {files : W → List (String × ByteArray)}
  {quota : Nat} {w : W}

/-- Only requests are of interest. All else changes nothing, and does not fail. -/
theorem of_requests (list : ∀ w, sound w → outcome store.list w = (.ok (Quota.listed (files w)), w))
    (stays : ∀ w (asked : Request), sound w → sound (outcome (store.request asked) w).2)
    (effect : ∀ w (asked : Request), sound w →
      Operation.Effect (.request asked) (files w) (files (outcome (store.request asked) w).2))
    (unlimited : ∀ w (asked : Request), sound w →
      ¬ IsOverQuota (outcome (store.request asked) w).1) :
    store.Accounts sound files where
  list := list
  stays w asked good := by
    cases asked with
    | request asked =>
      rw [outcome_perform_request]
      exact stays w asked good
    | url name => exact good
    | label => exact good
  effect w asked good := by
    cases asked with
    | request asked =>
      rw [outcome_perform_request]
      exact effect w asked good
    | url name => exact .none
    | label => exact .none
  unlimited w asked good := by
    cases asked with
    | request asked =>
      rw [outcome_perform_request, isOverQuota_map]
      exact unlimited w asked good
    | url name =>
      rw [outcome_perform_url]
      simp [IsOverQuota]
    | label =>
      rw [outcome_perform_label]
      simp [IsOverQuota]

theorem outcome_usage (accounts : store.Accounts sound files) (good : sound w)
    (room : Quota.size (files w) ≤ maxWord64) :
    outcome (Quota.usage store) w = (.ok (Quota.size (files w)), w) := by
  rw [Quota.usage, outcome_bind_pure, accounts.list w good, ← Quota.total_listed room]
  rfl

theorem outcome_ensureFits (accounts : store.Accounts sound files) (good : sound w)
    (room : Quota.size (files w) ≤ maxWord64) (small : quota < maxWord64) (name : String)
    (requested : Nat) :
    outcome (Quota.ensureFits store quota name requested) w =
      if quota < Quota.size (Quota.beside name (files w)) + requested then
        (.error (.quotaExceeded name quota (Quota.size (Quota.beside name (files w))) requested), w)
      else (.ok (), w) := by
  rw [Quota.ensureFits, outcome_bind_ok (accounts.list w good), Quota.refusal?_listed room small]
  by_cases beyond : quota < Quota.size (Quota.beside name (files w)) + requested
  · rw [if_pos beyond, if_pos beyond]
    rfl
  · rw [if_neg beyond, if_neg beyond]
    rfl

/-- What is to be stored is passed on if it fits. -/
theorem outcome_ensureFits_bind {α : Type} (accounts : store.Accounts sound files) (good : sound w)
    (room : Quota.size (files w) ≤ maxWord64) (small : quota < maxWord64) (name : String)
    (requested : Nat) (act : ExceptT StoreError (StateM W) α) :
    outcome (Quota.ensureFits store quota name requested >>= fun _ => act) w =
      if quota < Quota.size (Quota.beside name (files w)) + requested then
        (.error (.quotaExceeded name quota (Quota.size (Quota.beside name (files w))) requested), w)
      else outcome act w := by
  have checked := accounts.outcome_ensureFits good room small name requested
  by_cases beyond : quota < Quota.size (Quota.beside name (files w)) + requested
  · rw [if_pos beyond] at checked ⊢
    exact outcome_bind_error checked _
  · rw [if_neg beyond] at checked ⊢
    exact outcome_bind_ok checked _

/-- A store with a quota refuses what does not fit, and passes on everything else. -/
theorem outcome_withQuota (accounts : store.Accounts sound files) (good : sound w)
    (room : Quota.size (files w) ≤ maxWord64) (small : quota < maxWord64) (asked : Operation) :
    outcome ((store.withQuota quota).perform asked) w =
      match asked.stores? with
      | some (name, content) =>
        if quota < Quota.size (Quota.beside name (files w)) + content.size then
          (.error (.quotaExceeded name quota (Quota.size (Quota.beside name (files w)))
            content.size), w)
        else outcome (store.perform asked) w
      | none => outcome (store.perform asked) w := by
  cases asked with
  | url name => rfl
  | label => rfl
  | request asked =>
    rw [outcome_perform_request, outcome_perform_request]
    cases asked with
    | list | contains name | read name | delete name | stat name => rfl
    | write name content =>
      rw [outcome_request_write, outcome_request_write]
      simp only [Store.withQuota, Operation.stores?, Request.stores?]
      rw [accounts.outcome_ensureFits_bind good room small]
      split <;> rfl
    | create name content =>
      rw [outcome_request_create, outcome_request_create]
      simp only [Store.withQuota, Operation.stores?, Request.stores?]
      rw [accounts.outcome_ensureFits_bind good room small]
      split <;> rfl

/-- Whether an operation is refused for lack of room depends on the other files alone. -/
theorem isOverQuota_iff (accounts : store.Accounts sound files) (good : sound w)
    (room : Quota.size (files w) ≤ maxWord64) (small : quota < maxWord64) (asked : Operation) :
    IsOverQuota (outcome ((store.withQuota quota).perform asked) w).1 ↔
      ∃ name content, asked.stores? = some (name, content) ∧
        quota < Quota.size (Quota.beside name (files w)) + content.size := by
  have unlimited := accounts.unlimited w asked good
  rw [accounts.outcome_withQuota good room small]
  cases stores : asked.stores? with
  | none => simp [unlimited]
  | some stored =>
    obtain ⟨name, content⟩ := stored
    by_cases beyond : quota < Quota.size (Quota.beside name (files w)) + content.size
    · simp only [if_pos beyond]
      exact ⟨fun _ => ⟨name, content, rfl, beyond⟩, fun _ => ⟨_, _, _, _, rfl⟩⟩
    · simp only [if_neg beyond]
      refine ⟨fun refused => absurd refused unlimited, ?_⟩
      rintro ⟨other, held, same, fits⟩
      cases same
      exact absurd fits beyond

/-- A refusal for lack of room changes nothing, and otherwise the quota cannot be seen. -/
theorem withQuota_cases (accounts : store.Accounts sound files) (good : sound w)
    (room : Quota.size (files w) ≤ maxWord64) (small : quota < maxWord64) (asked : Operation) :
    (IsOverQuota (outcome ((store.withQuota quota).perform asked) w).1 ∧
      (outcome ((store.withQuota quota).perform asked) w).2 = w) ∨
    outcome ((store.withQuota quota).perform asked) w = outcome (store.perform asked) w := by
  rw [accounts.outcome_withQuota good room small]
  split
  · split
    · exact Or.inl ⟨⟨_, _, _, _, rfl⟩, rfl⟩
    · exact Or.inr rfl
  · exact Or.inr rfl

/-- One operation does not take a store beyond its quota. -/
theorem size_after (accounts : store.Accounts sound files) (good : sound w)
    (room : Quota.size (files w) ≤ maxWord64) (small : quota < maxWord64) (asked : Operation) :
    sound (outcome ((store.withQuota quota).perform asked) w).2 ∧
      Quota.size (files (outcome ((store.withQuota quota).perform asked) w).2) ≤
        max quota (Quota.size (files w)) := by
  rcases accounts.withQuota_cases good room small asked with ⟨-, same⟩ | same
  · rw [same]
    exact ⟨good, Nat.le_max_right _ _⟩
  · refine ⟨by rw [same]; exact accounts.stays w asked good, ?_⟩
    -- the wrapped store does not refuse for lack of room, so what it is passed did fit
    have fits := (accounts.isOverQuota_iff good room small asked).not.mp
      (by rw [same]; exact accounts.unlimited w asked good)
    have effect := accounts.effect w asked good
    rw [same]
    generalize files (outcome (store.perform asked) w).2 = after at effect
    cases effect with
    | none => exact Nat.le_max_right _ _
    | @stored name content _ stores same =>
      have fits : ¬ quota < Quota.size (Quota.beside name (files w)) + content.size :=
        fun beyond => fits ⟨name, content, stores, beyond⟩
      rw [Quota.size_perm same, Quota.size_cons]
      have within : content.size + Quota.size (Quota.beside name (files w)) ≤ quota := by omega
      exact Nat.le_trans within (Nat.le_max_left _ _)
    | erased same =>
      rw [Quota.size_perm same]
      exact Nat.le_trans (Quota.size_beside_le _ _) (Nat.le_max_right _ _)

/-- Neither do any number of them. -/
theorem size_after_all (accounts : store.Accounts sound files) (small : quota < maxWord64)
    (good : sound w) (room : Quota.size (files w) ≤ maxWord64) (operations : List Operation) :
    sound (worldAfter (store.withQuota quota).perform operations w) ∧
      Quota.size (files (worldAfter (store.withQuota quota).perform operations w)) ≤
        max quota (Quota.size (files w)) := by
  induction operations generalizing w with
  | nil => exact ⟨good, Nat.le_max_right _ _⟩
  | cons asked rest ih =>
    obtain ⟨stays, bounded⟩ := accounts.size_after good room small asked
    obtain ⟨sound', bounded'⟩ := ih stays (by omega)
    exact ⟨sound', Nat.le_trans bounded' (by omega)⟩

end Store.Accounts

/-! ### Stores in memory and in a directory -/

namespace MemoryStore

/-- Failures that are put in the way of a store are failures of its own. -/
def FailsByItself (store : MemoryStore) : Prop :=
  ∀ fault ∈ store.faults, ∀ name, ∃ reason, fault.error name = .backend reason

theorem FailsByItself.call {store : MemoryStore} (own : store.FailsByItself) {α : Type}
    {kind : StoreCall} {name : String} {work : MemoryStore → Except StoreError (α × MemoryStore)}
    (unlimited : ¬ IsOverQuota (work store)) :
    ¬ IsOverQuota (outcome (call kind name work) store).1 := by
  rintro ⟨file, quota, used, requested, refused⟩
  cases checked : store.check kind name with
  -- a call is refused for its name, or for a failure that was put in its way
  | error e =>
    rw [outcome_call_refused checked] at refused
    obtain rfl : e = .quotaExceeded file quota used requested := Except.error.inj refused
    rcases error_of_check checked with invalid | ⟨fault, member, same⟩
    · cases invalid
    · obtain ⟨reason, failed⟩ := own fault member name
      cases same.trans failed
  | ok _ =>
    cases done : work store with
    | error e =>
      rw [outcome_call_error checked done] at refused
      obtain rfl : e = .quotaExceeded file quota used requested := Except.error.inj refused
      exact unlimited ⟨_, _, _, _, done⟩
    | ok answered =>
      rw [outcome_call_ok checked done] at refused
      cases refused

variable (part : Part W MemoryStore) {w : W}

/-- What a request does to a store in memory. -/
theorem request_cases (regular : (part.get w).Regular) (label : String) (url : Option String)
    (asked : Request) :
    (outcome ((operations part label url).request asked) w).2 = w ∨
    (∃ name content, asked.stores? = some (name, content) ∧ isValidName name = true ∧
      (outcome ((operations part label url).request asked) w).2 =
        part.set ((part.get w).put name content) w) ∨
    ∃ name, (outcome ((operations part label url).request asked) w).2 =
      part.set ((part.get w).erase name) w := by
  have holds := operations_holds part label url
  have regular' : ∀ v, v = w → (part.get v).Regular := fun v same => same ▸ regular
  cases asked with
  | list =>
    rw [outcome_request_list]
    exact Or.inl (holds.keeps_list regular' w rfl)
  | contains name =>
    rw [outcome_request_contains]
    exact Or.inl (holds.keeps_contains regular' name w rfl)
  | read name =>
    rw [outcome_request_read]
    exact Or.inl (holds.keeps_read regular' name w rfl)
  | stat name =>
    rw [outcome_request_stat]
    exact Or.inl (holds.keeps_stat regular' name w rfl)
  | write name content =>
    rw [outcome_request_write]
    rcases holds.write w name content regular with ⟨e, failed⟩ | ⟨valid, done⟩
    · rw [failed]
      exact Or.inl rfl
    · rw [done]
      exact Or.inr (Or.inl ⟨name, content, rfl, valid, rfl⟩)
  | create name content =>
    rw [outcome_request_create]
    rcases holds.create w name content regular with ⟨e, failed⟩ | ⟨valid, -, done⟩
    · rw [failed]
      exact Or.inl rfl
    · rw [done]
      exact Or.inr (Or.inl ⟨name, content, rfl, valid, rfl⟩)
  | delete name =>
    rw [outcome_request_delete]
    cases found : (part.get w).find? name with
    | none =>
      obtain ⟨-, ⟨e, failed⟩, -⟩ := holds.missing w name regular found
      rw [failed]
      exact Or.inl rfl
    | some content =>
      rw [holds.delete w name content regular found]
      exact Or.inr (Or.inr ⟨name, rfl⟩)

/-- No request is refused by a store in memory as one beyond a quota. -/
theorem request_unlimited (regular : (part.get w).Regular) (own : (part.get w).FailsByItself)
    (label : String) (url : Option String) (asked : Request) :
    ¬ IsOverQuota (outcome ((operations part label url).request asked) w).1 := by
  have call {α : Type} {kind : StoreCall} {file : String}
      (work : MemoryStore → Except StoreError (α × MemoryStore))
      (unlimited : ¬ IsOverQuota (work (part.get w))) :
      ¬ IsOverQuota (outcome (ExceptT.mk (part.run (MemoryStore.call kind file work).run)) w).1 :=
    own.call unlimited
  cases asked with
  | list =>
    rw [outcome_request_list, (operations_holds part label url).list w regular]
    simp [IsOverQuota, Except.map]
  | contains name =>
    rw [outcome_request_contains, isOverQuota_map]
    exact call _ (by simp [IsOverQuota])
  | read name =>
    rw [outcome_request_read, isOverQuota_map]
    exact call _ (by split <;> simp [IsOverQuota])
  | write name content =>
    rw [outcome_request_write, isOverQuota_map]
    exact call _ (by simp [IsOverQuota])
  | create name content =>
    rw [outcome_request_create, isOverQuota_map]
    exact call _ (by split <;> simp [IsOverQuota])
  | delete name =>
    rw [outcome_request_delete, isOverQuota_map]
    exact call _ (by split <;> simp [IsOverQuota])
  | stat name =>
    rw [outcome_request_stat, isOverQuota_map]
    exact call _ (by split <;> simp [IsOverQuota])

theorem operations_accounts (label : String) (url : Option String) :
    (operations part label url).Accounts
      (fun w => (part.get w).Regular ∧ (part.get w).FailsByItself)
      (fun w => (part.get w).files) := by
  refine .of_requests (fun w sound => (operations_holds part label url).list w sound.1)
    (fun w asked sound => ?stays) (fun w asked sound => ?effect)
    fun w asked sound => request_unlimited part sound.1 sound.2 label url asked
  case stays =>
    rcases request_cases part sound.1 label url asked with
      same | ⟨name, content, -, valid, same⟩ | ⟨name, same⟩
    · rw [same]
      exact sound
    · rw [same, part.get_set]
      exact ⟨sound.1.put valid content, by simpa [FailsByItself] using sound.2⟩
    · rw [same, part.get_set]
      exact ⟨sound.1.erase name, sound.2⟩
  case effect =>
    rcases request_cases part sound.1 label url asked with
      same | ⟨name, content, stores, -, same⟩ | ⟨name, same⟩
    · rw [same]
      exact .none
    · rw [same, part.get_set, files_put]
      exact .stored stores (perm_putKeyed sound.1.distinct name content)
    · rw [same, part.get_set]
      exact .erased (List.Perm.refl _)

end MemoryStore

namespace DirectoryStore

variable {part : Part W FileTree} {root : String} {place : TreeLocation}

theorem onFile_unlimited {α : Type} (root name : String)
    (act : String → ExceptT DiskError (StateM W) α) (w : W) :
    ¬ IsOverQuota (outcome (onFile root name act) w).1 := by
  cases valid : isValidName name with
  | false =>
    rw [outcome_onFile_of_invalid valid]
    simp [IsOverQuota]
  | true =>
    rw [outcome_onFile valid]
    rintro ⟨file, quota, used, requested, refused⟩
    cases answer : (outcome (act (Path.join root name)) w).1 with
    | ok a =>
      rw [answer] at refused
      cases refused
    | error e =>
      rw [answer] at refused
      cases e <;> cases refused

/-- No request is refused by a store in a directory as one beyond a quota. -/
theorem request_unlimited (houses : (part.get w).Houses root place) (label : String)
    (asked : Request) :
    ¬ IsOverQuota (outcome ((operations (FileTree.disk part) label root).request asked) w).1 := by
  cases asked with
  | list =>
    rw [outcome_request_list, outcome_list houses]
    simp [IsOverQuota, Except.map]
  | contains name =>
    rw [outcome_request_contains, isOverQuota_map]
    simp only [operations, contains]
    split
    · rw [outcome_bind, outcome_liftM, run_run]
      simp only [FileTree.disk, FileTree.outcome_look]
      split
      · simp [IsOverQuota]
      · simp [IsOverQuota]
      next e _ _ =>
        rintro ⟨file, quota, used, requested, refused⟩
        cases e <;> cases refused
    · rintro ⟨file, quota, used, requested, refused⟩
      cases refused
  | read name =>
    rw [outcome_request_read, isOverQuota_map]
    exact onFile_unlimited root name _ w
  | write name content =>
    rw [outcome_request_write, isOverQuota_map]
    exact onFile_unlimited root name _ w
  | create name content =>
    rw [outcome_request_create, isOverQuota_map]
    simp only [operations]
    rw [outcome_bind_pure _ fun _ => FileInfo.mk name content.size, isOverQuota_map]
    exact onFile_unlimited root name _ w
  | delete name =>
    rw [outcome_request_delete, isOverQuota_map]
    exact onFile_unlimited root name _ w
  | stat name =>
    rw [outcome_request_stat, isOverQuota_map]
    simp only [operations, stat]
    have unlimited := onFile_unlimited root name (FileTree.disk part).inspect w
    rw [outcome_bind]
    split
    next standing between _ =>
      rintro ⟨file, quota, used, requested, refused⟩
      cases standing <;> cases refused
    next e between failed =>
      rw [failed] at unlimited
      rintro ⟨file, quota, used, requested, refused⟩
      exact unlimited
        ⟨file, quota, used, requested, congrArg Except.error (Except.error.inj refused)⟩

theorem operations_accounts (part : Part W FileTree) (label root : String) (place : TreeLocation) :
    (operations (FileTree.disk part) label root).Accounts
      (fun w => (part.get w).Houses root place) (fun w => filesIn (part.get w) place) := by
  refine .of_requests (fun w houses => outcome_list houses label) (fun w asked houses => ?stays)
    (fun w asked houses => ?effect) fun w asked houses => request_unlimited houses label asked
  case stays =>
    rcases request_cases houses label asked with
      same | ⟨name, content, -, noDirectory, same⟩ | ⟨name, noDirectory, same⟩
    · rwa [same]
    · rw [same, part.get_set]
      exact houses.put noDirectory content
    · rw [same, part.get_set]
      exact houses.erase noDirectory
  case effect =>
    rcases request_cases houses label asked with
      same | ⟨name, content, stores, -, same⟩ | ⟨name, -, same⟩
    · rw [same]
      exact .none
    · rw [same, part.get_set]
      exact .stored stores (perm_filesIn_put houses.distinct place name content)
    · rw [same, part.get_set]
      exact .erased (perm_filesIn_erase houses.distinct place name)

end DirectoryStore

/-! ### Main results -/

namespace Quota

/-- What a quota is put on: a store in memory, or one in a directory. -/
inductive Base (W : Type) where
  | memory (part : Part W MemoryStore) (label : String) (url : Option String)
  | directory (part : Part W FileTree) (label root : String) (place : TreeLocation)

namespace Base

def store : Base W → Store (StateM W)
  | .memory part label url => MemoryStore.operations part label url
  | .directory part label root _ => DirectoryStore.operations (FileTree.disk part) label root

/-- The store is one that was made, or its directory is there, without links in it. -/
def Sound : Base W → W → Prop
  | .memory part _ _, w => (part.get w).Regular ∧ (part.get w).FailsByItself
  | .directory part _ root place, w => (part.get w).Houses root place

def files : Base W → W → List (String × ByteArray)
  | .memory part _ _, w => (part.get w).files
  | .directory part _ _ place, w => DirectoryStore.filesIn (part.get w) place

theorem accounts : (base : Base W) → base.store.Accounts base.Sound base.files
  | .memory part label url => MemoryStore.operations_accounts part label url
  | .directory part label root place => DirectoryStore.operations_accounts part label root place

/-- At any time, what would take the files beyond the quota is refused and changes nothing. Whatever
else is asked of the store is answered by the store under the quota, which changes as it would
alone. So the quota never lets the files grow beyond it. -/
theorem withQuota_limits (base : Base W) {quota : Nat} (small : quota < maxWord64) {start : W}
    (sound : base.Sound start) (room : size (base.files start) ≤ maxWord64)
    (before : List Operation) (asked : Operation) :
    let store := base.store.withQuota quota
    let w := worldAfter store.perform before start
    let ended := outcome (store.perform asked) w
    (IsOverQuota ended.1 ↔ ∃ name content, asked.stores? = some (name, content) ∧
      quota < size (beside name (base.files w)) + content.size) ∧
    (IsOverQuota ended.1 → ended.2 = w) ∧
    (¬ IsOverQuota ended.1 → ended = outcome (base.store.perform asked) w) ∧
    outcome (usage store) w = (.ok (size (base.files w)), w) ∧
    size (base.files ended.2) ≤ max quota (size (base.files w)) ∧
    (size (base.files start) ≤ quota → size (base.files ended.2) ≤ quota) := by
  intro store w ended
  have accounts := base.accounts
  obtain ⟨good, bounded⟩ :
      base.Sound w ∧ size (base.files w) ≤ max quota (size (base.files start)) :=
    accounts.size_after_all small sound room before
  have roomy : size (base.files w) ≤ maxWord64 := by omega
  have grown : size (base.files ended.2) ≤ max quota (size (base.files w)) :=
    (accounts.size_after good roomy small asked).2
  have cases := accounts.withQuota_cases good roomy small asked
  refine ⟨accounts.isOverQuota_iff good roomy small asked, fun beyond => ?_, fun fits => ?_,
    accounts.outcome_usage good roomy, grown, fun within => by omega⟩
  · rcases cases with ⟨-, same⟩ | same
    · exact same
    · exact absurd (same ▸ beyond) (accounts.unlimited w asked good)
  · rcases cases with ⟨beyond, -⟩ | same
    · exact absurd beyond fits
    · exact same

/-- A picture is stored within the quota, and what it is to be replaced with is not. It has the URL
that it has without a quota. -/
theorem withQuota_limits_camera :
    let base : Base FileTree :=
      .directory (Part.whole FileTree) "local" "/camera" [EntryName.ofText "camera"]
    let store := base.store.withQuota 5
    let stored : List Operation := [.request (.create "b.jpg" "xy".toUTF8)]
    let replaced : Operation := .request (.write "b.jpg" "xyz".toUTF8)
    size (base.files (worldAfter store.perform (stored ++ [replaced]) cameraTree)) ≤ 5 ∧
      (outcome (store.perform (.url "b.jpg")) (worldAfter store.perform stored cameraTree)).1 =
        .ok (.url (some "file:///camera/b.jpg")) := by
  intro base store stored replaced
  have within : size (base.files cameraTree) ≤ 5 := by decide
  have room : size (base.files cameraTree) ≤ maxWord64 := Nat.le_trans within (by decide)
  have limits := base.withQuota_limits (show 5 < maxWord64 by decide) cameraTree_houses room stored
  constructor
  · exact (limits replaced).2.2.2.2.2 within
  · have forwarded := (limits (.url "b.jpg")).2.2.1 (by simp [outcome_perform_url, IsOverQuota])
    have addressed : base.store.nativeUrl "b.jpg" = some "file:///camera/b.jpg" := by decide
    refine (congrArg Prod.fst forwarded).trans ?_
    rw [outcome_perform_url, addressed]

end Base

end Quota

end CameraRoll
