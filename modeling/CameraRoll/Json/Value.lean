/-!
JSON values. The members of an object are kept sorted by their keys, each key once.
-/

namespace CameraRoll

/-- A JSON value. Whole numbers of 64 bits are kept exactly, all others as floating-point numbers. -/
inductive JsonValue where
  | null
  | bool (value : Bool)
  | whole (value : Int)
  | real (value : Float)
  | text (value : String)
  | array (items : List JsonValue)
  | object (members : List (String × JsonValue))
  deriving Inhabited

/-- Puts a member in the place of the one with its key, or else where its key belongs. -/
def insertMember {α : Type} (key : String) (value : α) : List (String × α) → List (String × α)
  | [] => [(key, value)]
  | (other, kept) :: rest =>
    if key < other then (key, value) :: (other, kept) :: rest
    else if key = other then (key, value) :: rest
    else (other, kept) :: insertMember key value rest

/-- The member under `key` after a value was put there. -/
theorem lookup_insertMember_self {α : Type} (key : String) (value : α)
    (members : List (String × α)) : (insertMember key value members).lookup key = some value := by
  induction members with
  | nil => simp [insertMember]
  | cons member rest ih =>
    obtain ⟨other, kept⟩ := member
    simp only [insertMember]
    split
    · simp
    · split
      · simp
      · rename_i different
        simp [List.lookup_cons, beq_eq_false_iff_ne.mpr different, ih]

/-- Members under other keys stay. -/
theorem lookup_insertMember_of_ne {α : Type} {key other : String} (value : α)
    (members : List (String × α)) (h : other ≠ key) :
    (insertMember key value members).lookup other = members.lookup other := by
  induction members with
  | nil => simp [insertMember, List.lookup_cons, beq_eq_false_iff_ne.mpr h]
  | cons member rest ih =>
    obtain ⟨name, kept⟩ := member
    simp only [insertMember]
    split
    · simp [List.lookup_cons, beq_eq_false_iff_ne.mpr h]
    · split
      · rename_i same
        subst same
        simp [List.lookup_cons, beq_eq_false_iff_ne.mpr h]
      · simp only [List.lookup_cons, ih]

end CameraRoll
