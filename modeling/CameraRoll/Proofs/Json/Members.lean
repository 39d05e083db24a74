import CameraRoll.Json.Value
import CameraRoll.Proofs.Keyed
import Mathlib.Data.String.Basic

/-!
The members of an object in the order of their keys. Main statements: `Ascending.insertMember`, and
`foldl_insertMember`, by which members that come in order are put behind one another.
-/

namespace CameraRoll

variable {α : Type} {key : String} {value : α} {members : List (String × α)}

/-- Each key once, and in order. -/
def Ascending (members : List (String × α)) : Prop :=
  members.Pairwise fun member other => member.1 < other.1

theorem mem_insertMember {member : String × α} (present : member ∈ insertMember key value members) :
    member = (key, value) ∨ member ∈ members := by
  induction members with
  | nil => simpa [insertMember] using present
  | cons first rest ih =>
    obtain ⟨other, kept⟩ := first
    simp only [insertMember] at present
    split at present
    · simpa using present
    · split at present
      · rcases List.mem_cons.mp present with new | old
        · exact Or.inl new
        · exact Or.inr (List.mem_cons_of_mem _ old)
      · rcases List.mem_cons.mp present with same | inside
        · exact Or.inr (same ▸ List.mem_cons_self)
        · exact (ih inside).imp_right (List.mem_cons_of_mem _)

/-- Members stay in order when one is put in. -/
theorem Ascending.insertMember (ascending : Ascending members) (key : String) (value : α) :
    Ascending (insertMember key value members) := by
  induction members with
  | nil => exact List.pairwise_singleton _ _
  | cons first rest ih =>
    obtain ⟨other, kept⟩ := first
    obtain ⟨least, ordered⟩ := List.pairwise_cons.mp ascending
    simp only [CameraRoll.insertMember]
    split
    -- the new member goes in front of the first one, in its place, or behind it
    next before =>
      refine List.pairwise_cons.mpr ⟨fun member present => ?_, ascending⟩
      rcases List.mem_cons.mp present with rfl | inside
      · exact before
      · exact String.lt_trans before (least member inside)
    · split
      next same =>
        subst same
        exact List.pairwise_cons.mpr ⟨least, ordered⟩
      next notBefore different =>
        refine List.pairwise_cons.mpr ⟨fun member present => ?_, ih ordered⟩
        rcases mem_insertMember present with rfl | inside
        · exact lt_of_le_of_ne (not_lt.mp notBefore) (Ne.symm different)
        · exact least member inside

theorem insertMember_of_last (last : ∀ member ∈ members, member.1 < key) (value : α) :
    insertMember key value members = members ++ [(key, value)] := by
  induction members with
  | nil => rfl
  | cons first rest ih =>
    obtain ⟨other, kept⟩ := first
    have behind : other < key := last _ List.mem_cons_self
    rw [insertMember, if_neg (String.lt_asymm behind), if_neg (ne_of_gt behind),
      ih fun member inside => last member (List.mem_cons_of_mem _ inside), List.cons_append]

/-- Members that come in order are put behind one another. -/
theorem foldl_insertMember {front rest : List (String × α)}
    (ascending : Ascending (front ++ rest)) :
    rest.foldl (fun members member => insertMember member.1 member.2 members) front =
      front ++ rest := by
  induction rest generalizing front with
  | nil => rw [List.foldl_nil, List.append_nil]
  | cons member rest ih =>
    have last : ∀ other ∈ front, other.1 < member.1 := fun other present =>
      (List.pairwise_append.mp ascending).2.2 other present member List.mem_cons_self
    rw [List.append_cons] at ascending ⊢
    rw [List.foldl_cons, insertMember_of_last last, ih ascending]

theorem lookup_insertMember (members : List (String × α)) (key other : String) (value : α) :
    (insertMember key value members).lookup other =
      if other = key then some value else members.lookup other := by
  split
  next same => rw [same, lookup_insertMember_self]
  next different => rw [lookup_insertMember_of_ne value members different]

/-- Of several members under one key the last one is found. -/
theorem lookup_foldl_insertMember (front rest : List (String × α)) (key : String) :
    (rest.foldl (fun members member => insertMember member.1 member.2 members) front).lookup key =
      (rest.reverse.lookup key).or (front.lookup key) :=
  look_foldl_put (fun members key value => insertMember key value members)
    (fun members key => members.lookup key)
    (fun members key value other => lookup_insertMember members key other value) rest front key

end CameraRoll
