/-!
Looking for the leftmost place of a text where a recogniser succeeds.
-/

namespace CameraRoll.Text

/-- What the recogniser finds at the leftmost place where it succeeds; the end of the text is a
place too. -/
def leftmost {α : Type} (recognise : List Char → Option α) : List Char → Option α
  | [] => recognise []
  | c :: rest =>
    match recognise (c :: rest) with
    | some found => some found
    | none => leftmost recognise rest

/-- Nothing is found exactly when the recogniser fails on every end piece. -/
theorem leftmost_eq_none_iff {α : Type} (recognise : List Char → Option α) (s : List Char) :
    leftmost recognise s = none ↔ ∀ front rest, s = front ++ rest → recognise rest = none := by
  induction s with
  | nil =>
    constructor
    · intro h front rest split
      obtain ⟨-, rfl⟩ := List.append_eq_nil_iff.mp split.symm
      exact h
    · intro h
      exact h [] [] rfl
  | cons c s ih =>
    simp only [leftmost]
    constructor
    · intro h front rest split
      cases front with
      | nil =>
        subst split
        cases found : recognise (c :: s) with
        | none => rfl
        | some a => simp [found] at h
      | cons d front =>
        cases found : recognise (c :: s) with
        | none =>
          simp only [found] at h
          exact ih.mp h front rest (List.cons.inj split).2
        | some a => simp [found] at h
    · intro h
      rw [h [] (c :: s) rfl]
      exact ih.mpr fun front rest split => h (c :: front) rest (by rw [split]; rfl)

/-- A success at the front of the text is the leftmost one. -/
theorem leftmost_of_some {α : Type} {recognise : List Char → Option α} {s : List Char} {a : α}
    (h : recognise s = some a) : leftmost recognise s = some a := by
  cases s with
  | nil => exact h
  | cons c s => simp [leftmost, h]

/-- A failure at the front of a nonempty text leaves the search to the rest. -/
theorem leftmost_cons_of_none {α : Type} {recognise : List Char → Option α} {c : Char}
    {s : List Char} (h : recognise (c :: s) = none) :
    leftmost recognise (c :: s) = leftmost recognise s := by
  simp [leftmost, h]

end CameraRoll.Text
