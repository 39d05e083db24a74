import Mathlib.Data.List.Nodup

/-!
Lists of entries with keys: looking up a key, after entries were put there, replaced or left out.
Main statements: `lookup_putKeyed` and `lookup_filter`, and `nodup_putKeyed`, by which no key comes
twice.
-/

namespace CameraRoll

variable {κ α : Type} [BEq κ] [LawfulBEq κ] [DecidableEq κ]

theorem lookup_cons_ite (key name : κ) (value : α) (rest : List (κ × α)) :
    ((key, value) :: rest).lookup name = if name = key then some value else rest.lookup name := by
  rw [List.lookup_cons]
  by_cases same : name = key
  · simp [same]
  · simp [same, beq_eq_false_iff_ne.mpr same]

omit [DecidableEq κ] in
theorem lookup_eq_none_iff_ne (entries : List (κ × α)) (key : κ) :
    entries.lookup key = none ↔ ∀ entry ∈ entries, entry.1 ≠ key := by
  rw [List.lookup_eq_none_iff]
  exact forall₂_congr fun entry _ => by rw [bne_iff_ne, ne_comm]

omit [DecidableEq κ] in
theorem mem_of_lookup {entries : List (κ × α)} {key : κ} {value : α}
    (found : entries.lookup key = some value) : (key, value) ∈ entries := by
  obtain ⟨front, back, split, -⟩ := List.lookup_eq_some_iff.mp found
  simp [split]

omit [DecidableEq κ] in
/-- An entry whose key comes once is the one that is found under it. -/
theorem lookup_of_mem {entries : List (κ × α)} (distinct : (entries.map (·.1)).Nodup)
    {entry : κ × α} (member : entry ∈ entries) : entries.lookup entry.1 = some entry.2 := by
  obtain ⟨front, back, split⟩ := List.append_of_mem member
  refine List.lookup_eq_some_iff.mpr ⟨front, back, split, fun other before => ?_⟩
  rw [split, List.map_append, List.map_cons, List.nodup_append] at distinct
  have apart := distinct.2.2 other.1 (List.mem_map_of_mem before) entry.1 List.mem_cons_self
  simpa using Ne.symm apart

/-- Entries put one after another into something in which keys are looked up: the last one under a
key is found. -/
theorem look_foldl_put {β : Type} (put : β → κ → α → β) (look : β → κ → Option α)
    (found : ∀ kept key value other,
      look (put kept key value) other = if other = key then some value else look kept other)
    (entries : List (κ × α)) (kept : β) (key : κ) :
    look (entries.foldl (fun kept entry => put kept entry.1 entry.2) kept) key =
      (entries.reverse.lookup key).or (look kept key) := by
  induction entries generalizing kept with
  | nil => rfl
  | cons entry rest ih =>
    obtain ⟨name, value⟩ := entry
    rw [List.foldl_cons, ih, List.reverse_cons, List.lookup_append, Option.or_assoc, found,
      lookup_cons_ite]
    congr 1
    split <;> rfl

omit [DecidableEq κ] in
theorem lookup_reverse {entries : List (κ × α)} (distinct : (entries.map (·.1)).Nodup) (key : κ) :
    entries.reverse.lookup key = entries.lookup key := by
  have distinct' : (entries.reverse.map (·.1)).Nodup := by
    rw [List.map_reverse]
    exact List.nodup_reverse.mpr distinct
  ext value
  constructor
  · exact fun found => lookup_of_mem distinct (List.mem_reverse.mp (mem_of_lookup found))
  · exact fun found => lookup_of_mem distinct' (List.mem_reverse.mpr (mem_of_lookup found))

omit [DecidableEq κ] in
/-- Entries without a key in common are told by what is found under each key. -/
theorem perm_of_lookup {entries others : List (κ × α)} (distinct : (entries.map (·.1)).Nodup)
    (distinct' : (others.map (·.1)).Nodup)
    (same : ∀ key, entries.lookup key = others.lookup key) : entries.Perm others := by
  refine (List.perm_ext_iff_of_nodup distinct.of_map distinct'.of_map).mpr fun entry => ?_
  constructor
  · intro member
    exact mem_of_lookup ((same entry.1).symm.trans (lookup_of_mem distinct member))
  · intro member
    exact mem_of_lookup ((same entry.1).trans (lookup_of_mem distinct' member))

theorem lookup_replace (entries : List (κ × α)) (name other : κ) (value : α) :
    (entries.map fun entry => if entry.1 = name then (name, value) else entry).lookup other =
      if other = name then (entries.lookup name).map fun _ => value else entries.lookup other := by
  induction entries with
  | nil => simp
  | cons entry rest ih =>
    obtain ⟨key, old⟩ := entry
    by_cases here : key = name
    · by_cases same : other = name <;> simp [here, same, lookup_cons_ite, ih]
    · by_cases same : other = name
      · simp only [same, if_true] at ih
        simp [here, same, lookup_cons_ite, Ne.symm here, ih]
      · simp [here, same, lookup_cons_ite, ih]

theorem lookup_filter (entries : List (κ × α)) (name other : κ) :
    (entries.filter fun entry => entry.1 ≠ name).lookup other =
      if other = name then none else entries.lookup other := by
  induction entries with
  | nil => simp
  | cons entry rest ih =>
    obtain ⟨key, value⟩ := entry
    by_cases here : key = name
    · rw [List.filter_cons_of_neg (by simp [here]), ih]
      by_cases same : other = name <;> simp [here, same, lookup_cons_ite]
    · rw [List.filter_cons_of_pos (by simp [here]), lookup_cons_ite, ih]
      by_cases same : other = name
      · simp [same, Ne.symm here]
      · simp [same, lookup_cons_ite]

/-! ### Putting an entry in -/

/-- The entries with a value under a key: in its place if the key is there, else at the end. -/
def putKeyed (entries : List (κ × α)) (key : κ) (value : α) : List (κ × α) :=
  if (entries.lookup key).isSome then
    entries.map fun entry => if entry.1 = key then (key, value) else entry
  else entries ++ [(key, value)]

theorem lookup_putKeyed (entries : List (κ × α)) (key other : κ) (value : α) :
    (putKeyed entries key value).lookup other =
      if other = key then some value else entries.lookup other := by
  unfold putKeyed
  split
  next present =>
    obtain ⟨old, found⟩ := Option.isSome_iff_exists.mp present
    rw [lookup_replace, found, Option.map_some]
  next absent =>
    have none : entries.lookup key = none := Option.not_isSome_iff_eq_none.mp absent
    by_cases same : other = key
    · simp [List.lookup_append, same, none]
    · simp [List.lookup_append, lookup_cons_ite, same]

omit [LawfulBEq κ] in
theorem keys_putKeyed (entries : List (κ × α)) (key : κ) (value : α) :
    (putKeyed entries key value).map (·.1) =
      if (entries.lookup key).isSome then entries.map (·.1) else entries.map (·.1) ++ [key] := by
  unfold putKeyed
  split
  · rw [List.map_map]
    refine List.map_congr_left fun entry _ => ?_
    by_cases here : entry.1 = key <;> simp [here]
  · simp

theorem nodup_putKeyed {entries : List (κ × α)} (distinct : (entries.map (·.1)).Nodup) (key : κ)
    (value : α) : ((putKeyed entries key value).map (·.1)).Nodup := by
  rw [keys_putKeyed]
  split
  · exact distinct
  next absent =>
    have free := (lookup_eq_none_iff_ne entries key).mp (Option.not_isSome_iff_eq_none.mp absent)
    refine List.nodup_append.mpr ⟨distinct, List.nodup_singleton _, ?_⟩
    intro other member new isNew equal
    obtain ⟨entry, present, rfl⟩ := List.mem_map.mp member
    exact free entry present (equal.trans (List.mem_singleton.mp isNew))

/-- A value under a key that was not there can be taken away again. -/
theorem filter_putKeyed {entries : List (κ × α)} {key : κ} (free : entries.lookup key = none)
    (value : α) : ((putKeyed entries key value).filter fun entry => entry.1 ≠ key) = entries := by
  have others : (entries.filter fun entry => entry.1 ≠ key) = entries := by
    rw [List.filter_eq_self]
    exact fun entry member =>
      decide_eq_true ((lookup_eq_none_iff_ne entries key).mp free entry member)
  rw [putKeyed, if_neg (by simp [free]), List.filter_append, others]
  simp

/-- Of two values under a key that was not there the second one counts. -/
theorem putKeyed_putKeyed {entries : List (κ × α)} {key : κ} (free : entries.lookup key = none)
    (first value : α) :
    putKeyed (putKeyed entries key first) key value = putKeyed entries key value := by
  have others := (lookup_eq_none_iff_ne entries key).mp free
  have kept : (entries.map fun entry => if entry.1 = key then (key, value) else entry) = entries :=
    (List.map_congr_left fun entry member => if_neg (others entry member)).trans (List.map_id' _)
  have present : ((putKeyed entries key first).lookup key).isSome = true := by
    simp [lookup_putKeyed]
  rw [putKeyed, if_pos present, putKeyed, putKeyed, if_neg (by simp [free]), if_neg (by simp [free])]
  simp [kept]

omit [LawfulBEq κ] in
theorem length_putKeyed_le (entries : List (κ × α)) (key : κ) (value : α) :
    (putKeyed entries key value).length ≤ entries.length + 1 := by
  unfold putKeyed
  split <;> simp

theorem perm_putKeyed {entries : List (κ × α)} (distinct : (entries.map (·.1)).Nodup) (key : κ)
    (value : α) :
    (putKeyed entries key value).Perm
      ((key, value) :: entries.filter fun entry => entry.1 ≠ key) := by
  refine perm_of_lookup (nodup_putKeyed distinct key value) ?_ fun other => ?_
  · rw [List.map_cons, List.nodup_cons]
    exact ⟨by simp, distinct.sublist (List.filter_sublist.map _)⟩
  · rw [lookup_putKeyed, lookup_cons_ite, lookup_filter]
    split <;> rfl

omit [LawfulBEq κ] in
theorem mem_putKeyed {entries : List (κ × α)} {key : κ} {value : α} {entry : κ × α}
    (member : entry ∈ putKeyed entries key value) : entry = (key, value) ∨ entry ∈ entries := by
  unfold putKeyed at member
  split at member
  · obtain ⟨old, present, rfl⟩ := List.mem_map.mp member
    by_cases here : old.1 = key
    · exact Or.inl (by simp [here])
    · exact Or.inr (by simpa [here] using present)
  · rcases List.mem_append.mp member with old | new
    · exact Or.inr old
    · exact Or.inl (List.mem_singleton.mp new)

end CameraRoll
