import CameraRoll.Proofs.Naming.Succession
import Mathlib.Data.Finset.Card
import Mathlib.Order.Interval.Finset.Nat

/-!
Names that leave no free name behind them. Main statements: `exhausted_iff`, that all names after one
are taken exactly if those up to the largest index are, and `exists_free_near`, that otherwise a free
one is no further away than there are taken ones.
-/

namespace CameraRoll.Naming

open CameraRoll.Text

/-- The name and the next one are taken, and so are those behind them, which differ in their index
alone, up to the largest index. -/
def Exhausted (taken : String → Prop) (name : String) : Prop :=
  taken name ∧ taken (nextName name) ∧
    ∃ front extension i, i ≤ maxWord64 ∧
      (∀ k, nextName^[k + 2] name =
        String.ofList (indexed front (min (i + k) maxWord64) extension)) ∧
      ∀ j, i ≤ j → j ≤ maxWord64 → taken (String.ofList (indexed front j extension))

theorem exists_iterate_nextName (name : String) :
    ∃ front extension i, i ≤ maxWord64 ∧
      ∀ k, nextName^[k + 2] name =
        String.ofList (indexed front (min (i + k) maxWord64) extension) := by
  obtain ⟨front, extension, i, small, after⟩ := exists_iterate_indexed name.toList
  refine ⟨front, extension, i, small, fun k => ?_⟩
  rw [← after k, ← toList_iterate_nextName, String.ofList_toList]

variable {taken : String → Prop} {name : String}

/-- No name behind an exhausted one is ever free, and the other way round. -/
theorem exhausted_iff : Exhausted taken name ↔ ∀ n, taken (nextName^[n] name) := by
  constructor
  · rintro ⟨first, second, front, extension, i, small, after, all⟩ n
    match n with
    | 0 => exact first
    | 1 => exact second
    | k + 2 =>
      rw [after k]
      apply all <;> omega
  · intro all
    obtain ⟨front, extension, i, small, after⟩ := exists_iterate_nextName name
    refine ⟨all 0, all 1, front, extension, i, small, after, ?_⟩
    intro j first last
    have here := all (j - i + 2)
    rwa [after, Nat.add_sub_cancel' first, Nat.min_eq_left last] at here

/-- If a free name comes at all, it comes after no more names than are taken, and two. -/
theorem exists_free_near {names : Finset String} (free : ∃ n, nextName^[n] name ∉ names) :
    ∃ n ≤ names.card + 2, nextName^[n] name ∉ names := by
  by_contra! near
  obtain ⟨front, extension, i, small, after⟩ := exists_iterate_nextName name
  have within (k : Nat) (few : k ≤ names.card) :
      String.ofList (indexed front (min (i + k) maxWord64) extension) ∈ names := by
    rw [← after k]
    exact near (k + 2) (by omega)
  rcases Nat.lt_or_ge maxWord64 (i + names.card) with reached | room
  -- the indices run out among the names tried, and no other name comes after them
  · obtain ⟨n, free⟩ := free
    refine free (exhausted_iff.mp ⟨near 0 (by omega), near 1 (by omega), front, extension, i, small,
      after, fun j first last => ?_⟩ n)
    have here := within (j - i) (by omega)
    rwa [Nat.add_sub_cancel' first, Nat.min_eq_left last] at here
  -- so many names and one more are told apart, and cannot all be among the taken ones
  · have fit : (Finset.range (names.card + 1)).card ≤ names.card := by
      refine Finset.card_le_card_of_injOn
        (fun k => String.ofList (indexed front (i + k) extension)) ?_ ?_
      · intro k member
        have few : k ≤ names.card := Nat.le_of_lt_succ (Finset.mem_range.mp member)
        have here := within k few
        rwa [Nat.min_eq_left (by omega)] at here
      · intro k _ j _ same
        have := indexed_inj (String.ofList_injective same)
        omega
    rw [Finset.card_range] at fit
    omega

end CameraRoll.Naming
