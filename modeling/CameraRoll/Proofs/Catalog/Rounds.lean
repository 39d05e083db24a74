import CameraRoll.Proofs.Catalog.Steps

/-!
The check for the last picture as a loop without a bound. Main statement: `rounds_iff`, that for
every list its rounds come to an end, whatever the stores answer, and that the check ends there.
-/

namespace CameraRoll

namespace Library

variable {W : Type}

/-- A round of the check, which goes on for as long as there is no answer: the last picture is the
answer if it need not be looked for or if its file is there, and is dropped otherwise. -/
def checkRound {m : Type → Type} [Monad m] (library : Library m) :
    Action m (Option (Option Picture)) := do
  match ← library.last with
  | none => return some none
  | some picture =>
    if library.resolver.hasExternal then
      if ← outside (library.resolver.contains picture.file) .storage then
        return some (some picture)
      else
        library.delete picture true
        return none
    else return some (some picture)

/-- One round after the other, up to the first one that has an answer or fails. -/
inductive Rounds (library : Library (StateM W)) :
    Catalog → W → Except CatalogError (Option Picture) → Catalog → W → Prop
  | failed {catalog after : Catalog} {w w' : W} {e : CatalogError}
      (round : performed library.checkRound catalog w = ((.error e, after), w')) :
      Rounds library catalog w (.error e) after w'
  | answered {catalog after : Catalog} {w w' : W} {answer : Option Picture}
      (round : performed library.checkRound catalog w = ((.ok (some answer), after), w')) :
      Rounds library catalog w (.ok answer) after w'
  | again {catalog between after : Catalog} {w v w' : W}
      {answer : Except CatalogError (Option Picture)}
      (round : performed library.checkRound catalog w = ((.ok none, between), v))
      (rest : Rounds library between v answer after w') :
      Rounds library catalog w answer after w'

variable {library : Library (StateM W)} {catalog after : Catalog} {w w' : W}
  {answer : Except CatalogError (Option Picture)} {pictures : List Picture}

/-- No two sequences of rounds end in different ways. -/
theorem Rounds.unique (rounds : Rounds library catalog w answer after w')
    {answer' : Except CatalogError (Option Picture)} {after' : Catalog} {v' : W}
    (others : Rounds library catalog w answer' after' v') :
    answer = answer' ∧ after = after' ∧ w' = v' := by
  -- each round has one outcome, which tells with what constructor both sequences begin
  induction rounds with
  | failed round =>
    cases others with
    | failed other => cases round.symm.trans other; exact ⟨rfl, rfl, rfl⟩
    | answered other | again other => cases round.symm.trans other
  | answered round =>
    cases others with
    | answered other => cases round.symm.trans other; exact ⟨rfl, rfl, rfl⟩
    | failed other | again other => cases round.symm.trans other
  | again round _ ih =>
    cases others with
    | again other rest => cases round.symm.trans other; exact ih rest
    | failed other | answered other => cases round.symm.trans other

/-- A bounded search begins with a round. -/
theorem performed_prune_succ (library : Library (StateM W)) (count : Nat) (catalog : Catalog)
    (w : W) :
    performed (library.prune (count + 1)) catalog w =
      match performed library.checkRound catalog w with
      | ((.error e, after), w') => ((.error e, after), w')
      | ((.ok (some answer), after), w') => ((.ok answer, after), w')
      | ((.ok none, between), v) => performed (library.prune count) between v := by
  -- both sides ask the same of the library, one answer after the other
  rw [prune, checkRound, performed_bind, performed_bind]
  rcases performed library.last catalog w with ⟨⟨e | last, listed⟩, v⟩
  · rfl
  · cases last with
    | none => rfl
    | some picture =>
      dsimp only
      split
      · rw [performed_bind, performed_bind]
        rcases performed (outside (library.resolver.contains picture.file) .storage) listed v with
          ⟨⟨e | there, listed⟩, v⟩
        · rfl
        · cases there with
          | true => rfl
          | false =>
            dsimp only
            rw [if_neg Bool.false_ne_true, if_neg Bool.false_ne_true, performed_bind,
              performed_bind]
            rcases performed (library.delete picture true) listed v with ⟨⟨e | _, listed⟩, v⟩ <;>
              rfl
      · rfl

section Loaded

variable (loaded : catalog.listing = .loaded pictures)
include loaded

/-- The answer of a round, by the last picture. -/
theorem performed_checkRound (w : W) :
    performed library.checkRound catalog w =
      match pictures.getLast? with
      | none => ((.ok (some none), catalog), w)
      | some last =>
        if library.resolver.hasExternal then
          match outcome (library.resolver.contains last.file) w with
          | (.error e, w') => ((.error (.storage e), catalog), w')
          | (.ok true, w') => ((.ok (some (some last)), catalog), w')
          | (.ok false, v) => ((.ok none, catalog.drop last),
              match last.thumbnail with
              | none => v
              | some thumbnail => (outcome (library.resolver.remove thumbnail) v).2)
        else ((.ok (some (some last)), catalog), w) := by
  rw [checkRound, performed_bind, performed_last loaded]
  cases pictures.getLast? with
  | none => rfl
  | some last =>
    dsimp only
    split
    · rw [performed_bind, performed_outside]
      rcases outcome (library.resolver.contains last.file) w with ⟨e | there, v⟩
      · rfl
      · cases there with
        | true => rfl
        | false =>
          dsimp only [Except.mapError]
          rw [if_neg Bool.false_ne_true, performed_bind, performed_delete_gone loaded]
          rfl
    · rfl

/-- A round leaves the list as it is, or it drops the last picture and has no answer. -/
theorem checkRound_cases {round : Except CatalogError (Option (Option Picture))}
    (ran : performed library.checkRound catalog w = ((round, after), w')) :
    (round ≠ .ok none ∧ after = catalog) ∨
      round = .ok none ∧ ∃ last ∈ pictures.getLast?, after = catalog.drop last := by
  rw [performed_checkRound loaded] at ran
  cases isLast : pictures.getLast? with
  | none =>
    rw [isLast] at ran
    cases ran
    exact Or.inl ⟨nofun, rfl⟩
  | some last =>
    rw [isLast] at ran
    dsimp only at ran
    split at ran
    · split at ran
      · cases ran
        exact Or.inl ⟨nofun, rfl⟩
      · cases ran
        exact Or.inl ⟨nofun, rfl⟩
      -- the file is gone
      · cases ran
        exact Or.inr ⟨rfl, last, rfl, rfl⟩
    · cases ran
      exact Or.inl ⟨nofun, rfl⟩

end Loaded

/-- The list is shorter without its last picture, or without the first one that is the same. -/
theorem length_erase_last {last : Picture} (isLast : last ∈ pictures.getLast?) :
    (last.erase pictures).length + 1 = pictures.length := by
  have member : last ∈ pictures := List.mem_of_getLast? isLast
  have same : last.isSame last = true := StoredFile.isSame_iff.mpr ⟨rfl, rfl⟩
  have shorter := List.length_eraseP_of_mem (p := (·.isSame last)) member same
  rw [Picture.erase, shorter]
  exact Nat.sub_add_cancel (List.length_pos_of_mem member)

theorem listing_drop (loaded : catalog.listing = .loaded pictures) (picture : Picture) :
    (catalog.drop picture).listing = .loaded (picture.erase pictures) := by
  rw [Catalog.drop, loaded]
  rfl

/-- A search that is bounded by no less than the length of the list never gets to its bound. -/
theorem prune_rounds (count : Nat) (loaded : catalog.listing = .loaded pictures)
    (room : pictures.length ≤ count) (w : W) :
    let run := performed (library.prune count) catalog w
    Rounds library catalog w run.1.1 run.1.2 run.2 := by
  -- by induction on the bound, which becomes smaller as the list does
  induction count generalizing catalog pictures w with
  | zero =>
    obtain rfl : pictures = [] := List.eq_nil_of_length_eq_zero (Nat.le_zero.mp room)
    rw [prune, performed_last loaded]
    exact .answered (performed_checkRound loaded w)
  | succ count ih =>
    rw [performed_prune_succ]
    rcases round : performed library.checkRound catalog w with ⟨⟨e | answer, between⟩, v⟩
    · exact .failed round
    · cases answer with
      | some answer => exact .answered round
      | none =>
        rcases checkRound_cases loaded round with ⟨more, -⟩ | ⟨-, last, isLast, rfl⟩
        · exact absurd rfl more
        -- the shorter list has room in the smaller bound
        · have shorter := length_erase_last isLast
          exact .again round (ih (listing_drop loaded last) (by omega) v)

/-- The check goes through its rounds up to their end, which is there for every list. -/
theorem rounds_iff (loaded : catalog.listing = .loaded pictures) :
    Rounds library catalog w answer after w' ↔
      performed library.checkLast catalog w = ((answer, after), w') := by
  have rounds : Rounds library catalog w _ _ _ :=
    prune_rounds pictures.length loaded (Nat.le_refl _) w
  rw [checkLast, performed_bind, performed_list_of_loaded loaded]
  dsimp only
  constructor
  · intro others
    obtain ⟨rfl, rfl, rfl⟩ := others.unique rounds
    rfl
  · intro ran
    rw [ran] at rounds
    exact rounds

end Library

end CameraRoll
