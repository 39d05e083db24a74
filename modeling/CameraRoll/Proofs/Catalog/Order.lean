import CameraRoll.Catalog.Picture
import Mathlib.Data.List.DropRight

/-!
Lists of pictures in the order of their times. Main statements: `InOrder.insert` and
`InOrder.erase`, that a list stays in order, `Picture.filter_sortByTime`, that sorting leaves
pictures of one time as they stood, and `Picture.map_file_erase`, what erasing takes away.
-/

namespace CameraRoll

/-- No picture was taken before one that stands in front of it. -/
def InOrder (pictures : List Picture) : Prop :=
  pictures.Pairwise fun a b => a.instant ≤ b.instant

theorem StoredFile.isSame_iff {a b : StoredFile} :
    a.isSame b = true ↔ a.location = b.location ∧ a.name = b.name := by
  rw [isSame, Bool.and_eq_true, decide_eq_true_eq, decide_eq_true_eq]

theorem StoredFile.isSame_comm (a b : StoredFile) : a.isSame b = b.isSame a := by
  rw [Bool.eq_iff_iff, isSame_iff, isSame_iff, eq_comm, @eq_comm _ a.name]

namespace Picture

variable (picture : Picture) (pictures : List Picture)

/-! ### Putting a picture in its place -/

/-- Whether a picture was taken before another. -/
def isEarlier (picture other : Picture) : Bool := decide (picture.instant < other.instant)

theorem insert_concat (last : Picture) :
    picture.insert (pictures ++ [last]) =
      if picture.isEarlier last then picture.insert pictures ++ [last]
      else pictures ++ [last, picture] := by
  induction pictures with
  | nil =>
    rcases Int.lt_or_le picture.instant last.instant with later | before
    · simp [insert, isEarlier, later, Int.not_le.mpr later]
    · simp [insert, isEarlier, before, Int.not_lt.mpr before]
  | cons other rest ih =>
    rw [List.cons_append, insert, ih]
    rcases Int.lt_or_le picture.instant last.instant with later | before
    · -- a last picture that is later does not decide where the search goes on
      have same : (other :: (rest ++ [last])).any (·.instant ≤ picture.instant) =
          (other :: rest).any (·.instant ≤ picture.instant) := by
        simp [Int.not_le.mpr later]
      rw [same, insert]
      split <;> simp [isEarlier, later]
    · have found : (other :: (rest ++ [last])).any (·.instant ≤ picture.instant) = true := by
        simp [before]
      rw [if_pos found]
      simp [isEarlier, Int.not_lt.mpr before]

/-- A picture stands behind the last one that was taken at or before it. -/
theorem insert_eq :
    picture.insert pictures =
      pictures.rdropWhile picture.isEarlier ++ picture :: pictures.rtakeWhile picture.isEarlier := by
  induction pictures using List.reverseRecOn with
  | nil => rfl
  | append_singleton pictures last ih =>
    rw [insert_concat, List.rdropWhile_concat, List.rtakeWhile_concat, ih]
    split <;> simp

theorem perm_insert : (picture.insert pictures).Perm (picture :: pictures) := by
  rw [insert_eq]
  refine List.perm_middle.trans (.cons _ ?_)
  rw [List.rdropWhile_append_rtakeWhile]

variable {pictures} in
/-- Pictures that were not taken later stay in front of a new one. -/
theorem sublist_insert {earlier : List Picture} (listed : earlier.Sublist pictures)
    (before : ∀ other ∈ earlier, other.instant ≤ picture.instant) :
    (earlier ++ [picture]).Sublist (picture.insert pictures) := by
  rw [← pictures.rdropWhile_append_rtakeWhile (p := picture.isEarlier)] at listed
  obtain ⟨front, back, rfl, inFront, inBack⟩ := List.sublist_append_iff.mp listed
  -- none of them is among the pictures behind the new one
  have none : back = [] := by
    refine List.eq_nil_iff_forall_not_mem.mpr fun other member => ?_
    have later := List.mem_rtakeWhile_imp (inBack.subset member)
    have sooner := before other (List.mem_append_right _ member)
    rw [isEarlier, decide_eq_true_eq] at later
    omega
  rw [insert_eq, none, List.append_nil]
  exact inFront.append (List.singleton_sublist.mpr List.mem_cons_self)

/-! ### Erasing -/

variable {pictures} in
/-- Of pictures that are told apart, erasing one takes its file away and leaves every other. -/
theorem map_file_erase (apart : pictures.Pairwise fun a b => a.isSame b = false) :
    (picture.erase pictures).map (·.file) =
      (pictures.map (·.file)).filter fun file => !file.isSame picture.file := by
  induction pictures with
  | nil => rfl
  | cons other rest ih =>
    obtain ⟨first, others⟩ := List.pairwise_cons.mp apart
    rw [erase] at ih ⊢
    cases same : other.isSame picture with
    | true =>
      -- no picture after the first that is the same is the same, too
      have kept : (rest.map (·.file)).filter (fun file => !file.isSame picture.file) =
          rest.map (·.file) := by
        refine List.filter_eq_self.mpr fun file member => ?_
        obtain ⟨later, isLater, rfl⟩ := List.mem_map.mp member
        have different := first later isLater
        rw [Picture.isSame, StoredFile.isSame_iff] at same
        rw [Picture.isSame, ← Bool.not_eq_true, StoredFile.isSame_iff, same.1, same.2] at different
        rw [StoredFile.isSame_comm, Bool.not_eq_true', ← Bool.not_eq_true, StoredFile.isSame_iff]
        exact different
      have gone : other.file.isSame picture.file = true := same
      simp [same, gone, kept]
    | false =>
      have stays : other.file.isSame picture.file = false := same
      simp [same, stays, ih others]

/-! ### Sorting -/

theorem perm_sortByTime : (sortByTime pictures).Perm pictures := List.mergeSort_perm _ _

theorem inOrder_sortByTime : InOrder (sortByTime pictures) := by
  have sorted : (sortByTime pictures).Pairwise fun a b => decide (a.instant ≤ b.instant) :=
    List.pairwise_mergeSort (fun a b c => by simpa using Int.le_trans)
      (fun a b => by simpa using Int.le_total _ _) pictures
  exact sorted.imp fun le => of_decide_eq_true le

/-- Sorting leaves the pictures of one time as they stood. -/
theorem filter_sortByTime (time : Int) :
    (sortByTime pictures).filter (·.instant = time) = pictures.filter (·.instant = time) := by
  have same : (pictures.filter (·.instant = time)).Pairwise
      fun a b => decide (a.instant ≤ b.instant) := by
    refine List.pairwise_of_forall_mem_list fun a isTaken b isTakenToo => ?_
    have first : a.instant = time := by simpa using (List.mem_filter.mp isTaken).2
    have second : b.instant = time := by simpa using (List.mem_filter.mp isTakenToo).2
    simp [first, second]
  have kept : (pictures.filter (·.instant = time)).Sublist (sortByTime pictures) :=
    List.sublist_mergeSort (fun a b c => by simpa using Int.le_trans)
      (fun a b => by simpa using Int.le_total _ _) same List.filter_sublist
  have among := kept.filter (·.instant = time)
  rw [List.filter_filter] at among
  simp only [Bool.and_self] at among
  -- it is a part of the sorted list, and as long as what it is a part of
  have length := ((perm_sortByTime pictures).filter (·.instant = time)).length_eq
  exact (among.eq_of_length length.symm).symm

end Picture

namespace InOrder

variable {pictures : List Picture}

/-- What is left in front of a picture was taken at its time or before. -/
theorem le_of_mem_rdropWhile (inOrder : InOrder pictures) (picture : Picture) :
    ∀ other ∈ pictures.rdropWhile picture.isEarlier, other.instant ≤ picture.instant := by
  intro other member
  have front : InOrder (pictures.rdropWhile picture.isEarlier) :=
    List.Pairwise.sublist (List.rdropWhile_prefix _ _).sublist inOrder
  have some : pictures.rdropWhile picture.isEarlier ≠ [] := List.ne_nil_of_mem member
  have last := List.rdropWhile_last_not picture.isEarlier pictures some
  have before : ((pictures.rdropWhile picture.isEarlier).getLast some).instant ≤
      picture.instant := by simpa [Picture.isEarlier] using last
  rw [← List.dropLast_append_getLast some] at front member
  -- the last one that is left is not later, and no other is later than that
  rcases List.mem_append.mp member with inFront | isLast
  · have upTo := (List.pairwise_append.mp front).2.2 other inFront _ (List.mem_singleton_self _)
    exact Int.le_trans upTo before
  · rw [List.mem_singleton.mp isLast]
    exact before

theorem insert (inOrder : InOrder pictures) (picture : Picture) :
    InOrder (picture.insert pictures) := by
  have before := inOrder.le_of_mem_rdropWhile picture
  have later : ∀ other ∈ pictures.rtakeWhile picture.isEarlier,
      picture.instant < other.instant := by
    intro other member
    simpa [Picture.isEarlier] using List.mem_rtakeWhile_imp member
  rw [← List.rdropWhile_append_rtakeWhile (p := picture.isEarlier) (l := pictures)] at inOrder
  obtain ⟨front, back, across⟩ := List.pairwise_append.mp inOrder
  rw [Picture.insert_eq]
  refine List.pairwise_append.mpr ⟨front, .cons (fun other member => ?_) back, ?_⟩
  · exact Int.le_of_lt (later other member)
  · intro first inFront second inBack
    rcases List.mem_cons.mp inBack with rfl | member
    · exact before first inFront
    · exact across first inFront second member

theorem erase (inOrder : InOrder pictures) (picture : Picture) :
    InOrder (picture.erase pictures) :=
  List.Pairwise.sublist List.eraseP_sublist inOrder

end InOrder

end CameraRoll
