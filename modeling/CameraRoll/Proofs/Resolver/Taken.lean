import CameraRoll.Proofs.Naming.Duplicates
import CameraRoll.Proofs.Resolver.Save

/-!
How far a search for a free name goes. Main statement: `Store.TakenByFiles.index_le`, that the index
of a new picture is no greater than the number of files, if names are refused as taken only where
they are.
-/

namespace CameraRoll

open CameraRoll.Calendar CameraRoll.Naming CameraRoll.Text

variable {W : Type}

/-! ### Names that are refused as taken -/

namespace MemoryStore

/-- No failure that is put in the way of a store pretends that a name is taken. -/
def Truthful (store : MemoryStore) : Prop :=
  ∀ fault ∈ store.faults, ∀ name other, fault.error name ≠ .alreadyExists other

theorem truthful_empty : Truthful {} := fun _ member => by cases member

theorem Truthful.failWritesTo {store : MemoryStore} (truthful : store.Truthful) (name : String) :
    (store.failWritesTo name).Truthful := by
  intro fault member
  simp only [MemoryStore.failWritesTo, addFault, List.mem_cons] at member
  rcases member with rfl | rfl | old
  · intro _ _ same
    cases same
  · intro _ _ same
    cases same
  · exact truthful fault old

theorem Truthful.check_ne {store : MemoryStore} (truthful : store.Truthful) (kind : StoreCall)
    (name other : String) : store.check kind name ≠ .error (.alreadyExists other) := by
  intro refused
  rcases error_of_check refused with invalid | ⟨fault, member, same⟩
  · cases invalid
  · exact truthful fault member name other same.symm

theorem isSome_of_createCall {store : MemoryStore} (truthful : store.Truthful)
    {name other : String} {content : ByteArray}
    (refused : (outcome (createCall name content) store).1 = .error (.alreadyExists other)) :
    (store.find? name).isSome = true := by
  cases found : store.find? name with
  | some old => rfl
  | none =>
    unfold createCall at refused
    cases checked : store.check .create name with
    | error e =>
      rw [outcome_call_refused checked] at refused
      obtain rfl : e = .alreadyExists other := Except.error.inj refused
      exact absurd checked (truthful.check_ne _ _ _)
    | ok _ =>
      rw [outcome_call_ok checked (by simp only [found]; rfl)] at refused
      cases refused

end MemoryStore

/-- A store refuses a name as taken only if a file has it. -/
def Store.TakenByFiles (store : Store (StateM W)) (part : Part W MemoryStore) : Prop :=
  ∀ w name content other, (part.get w).Regular → (part.get w).Truthful →
    (outcome (store.create name content) w).1 = .error (.alreadyExists other) →
    ((part.get w).find? name).isSome = true

theorem MemoryStore.operations_taken (part : Part W MemoryStore) (label : String)
    (url : Option String) : (operations part label url).TakenByFiles part := by
  intro w name content other regular truthful refused
  exact isSome_of_createCall truthful refused

theorem Store.TakenByFiles.withQuota {store : Store (StateM W)} {part : Part W MemoryStore}
    (taken : store.TakenByFiles part) (holds : store.Holds part) (quota : Nat) :
    (store.withQuota quota).TakenByFiles part := by
  intro w name content other regular truthful refused
  simp only [Store.withQuota, outcome_bind, Quota.ensureFits] at refused
  rw [holds.list w regular] at refused
  dsimp only at refused
  cases fits : Quota.refusal? quota name content.size
      ((part.get w).files.map fun file => ⟨file.1, file.2.size⟩) with
  | some e =>
    -- the quota has its own reason to refuse
    rw [fits] at refused
    obtain rfl : e = .alreadyExists other := Except.error.inj refused
    simp only [Quota.refusal?] at fits
    split at fits <;> cases fits
  | none =>
    rw [fits] at refused
    exact taken w name content other regular truthful refused

/-! ### New pictures -/

/-- If all names of a new picture before one are refused as taken, files have them, so that its
index is no greater than the number of files. -/
theorem Store.TakenByFiles.index_le {store : Store (StateM W)} {part : Part W MemoryStore} {w : W}
    (taken : store.TakenByFiles part) (regular : (part.get w).Regular)
    (truthful : (part.get w).Truthful) {kind : MediaKind} {now : Instant} {zone : Zone}
    (years : InFourDigitYears (namingClock now zone))
    (room : (part.get w).files.length < maxWord64) {n : Nat}
    (earlier : ∀ k < n, ∃ other,
      outcome (store.create (nextName^[k] (canonicalName kind now zone)) .empty) w =
        (.error (.alreadyExists other), w)) :
    n ≤ (part.get w).files.length := by
  rw [← List.length_map (fun file : String × ByteArray => file.1)] at room ⊢
  have before : ∀ k < n, nextName^[k] (canonicalName kind now zone) ∈
      (part.get w).files.map fun file => file.1 := by
    intro k few
    obtain ⟨other, refused⟩ := earlier k few
    have present := taken w _ _ other regular truthful (congrArg Prod.fst refused)
    obtain ⟨old, found⟩ := Option.isSome_iff_exists.mp present
    exact List.mem_map.mpr ⟨_, MemoryStore.mem_of_find? found, rfl⟩
  exact le_length_of_taken years room before

end CameraRoll
