import CameraRoll.Disk.Path
import Mathlib.Data.List.Basic

/-!
The parts of a path, when a name is added at its end and when it is put together from parts. Main
statements: `parts_append` and `parts_ofParts`, and `join_absolute` for absolute paths.
-/

namespace CameraRoll

namespace Path

theorem splitSlashes_eq (s : List Char) : splitSlashes s = s.splitOn '/' := by
  induction s with
  | nil => rfl
  | cons c s ih =>
    rw [List.splitOn_cons_eq_if_modifyHead, ← ih]
    by_cases slash : c = '/'
    · simp [splitSlashes, slash]
    · rw [if_neg (by simpa using slash)]
      simp only [splitSlashes, List.foldr_cons, if_neg slash]
      -- there is always a first part that the character can join
      have some : s.splitOn '/' ≠ [] := List.splitOn_ne_nil _ _
      rw [← ih] at some
      obtain ⟨part, rest, split⟩ := List.exists_cons_of_ne_nil some
      simp only [splitSlashes] at split
      rw [split, List.modifyHead_cons]

theorem notMem_of_mem_splitSlashes {s part : List Char} (member : part ∈ splitSlashes s) :
    '/' ∉ part := by
  rw [splitSlashes_eq] at member
  induction s generalizing part with
  | nil => simp_all
  | cons c s ih =>
    rw [List.splitOn_cons_eq_if_modifyHead] at member
    split at member
    · rcases List.mem_cons.mp member with rfl | member
      · simp
      · exact ih member
    next noSlash =>
      obtain ⟨first, rest, split⟩ := List.exists_cons_of_ne_nil (List.splitOn_ne_nil '/' s)
      rw [split] at ih
      rw [split, List.modifyHead_cons] at member
      rcases List.mem_cons.mp member with rfl | member
      · have clear : '/' ∉ first := ih List.mem_cons_self
        rw [List.mem_cons, not_or]
        exact ⟨fun same => noSlash (by simp [← same]), clear⟩
      · exact ih (List.mem_cons_of_mem _ member)

/-- The parts hold no other characters than the whole. -/
theorem mem_of_mem_splitSlashes {s part : List Char} (member : part ∈ splitSlashes s) {c : Char}
    (inside : c ∈ part) : c ∈ s := by
  rw [splitSlashes_eq] at member
  have joined : ['/'].intercalate (s.splitOn '/') = s := List.intercalate_splitOn '/'
  rw [← joined, List.intercalate]
  refine List.mem_flatten.mpr ⟨part, ?_, inside⟩
  generalize s.splitOn '/' = parts at member
  induction parts with
  | nil => cases member
  | cons first rest ih =>
    cases rest with
    | nil => simpa using member
    | cons next rest =>
      rcases List.mem_cons.mp member with rfl | member
      · simp
      · simp [List.intersperse_cons_cons, ih member]

/-- A part of a path that names something, as it stands. -/
structure IsPart (part : String) : Prop where
  nonempty : part ≠ ""
  noDot : part ≠ "."
  noSlash : '/' ∉ part.toList

/-- A part of a path that names an entry of the directory before it. -/
structure IsName (name : String) : Prop extends IsPart name where
  noUp : name ≠ ".."
  noNul : '\x00' ∉ name.toList

/-- A front to which a name can be added. -/
def EndsOpen (front : String) : Prop := front = "" ∨ front.toList.getLast? = some '/'

/-- What a part between slashes has to be to name something. -/
def isNamed (part : List Char) : Bool := !part.isEmpty && part != ['.']

theorem parts_eq (path : String) :
    parts path = ((splitSlashes path.toList).filter isNamed).map String.ofList := rfl

theorem IsPart.isNamed {part : String} (proper : IsPart part) :
    Path.isNamed part.toList = true := by
  have nonempty : part.toList ≠ [] := by simpa using proper.nonempty
  have noDot : part.toList ≠ ['.'] := fun dot => proper.noDot (String.toList_injective dot)
  simp [Path.isNamed, nonempty, noDot]

theorem isPart_of_mem_parts {path part : String} (member : part ∈ parts path) : IsPart part := by
  rw [parts_eq] at member
  obtain ⟨chars, filtered, rfl⟩ := List.mem_map.mp member
  obtain ⟨split, named⟩ := List.mem_filter.mp filtered
  refine ⟨?_, ?_, by simpa using notMem_of_mem_splitSlashes split⟩
  · intro empty
    obtain rfl : chars = [] := by simpa using congrArg String.toList empty
    simp [Path.isNamed] at named
  · intro dot
    obtain rfl : chars = ['.'] := by simpa using congrArg String.toList dot
    simp [Path.isNamed] at named

theorem mem_of_mem_parts {path part : String} (member : part ∈ parts path) {c : Char}
    (inside : c ∈ part.toList) : c ∈ path.toList := by
  rw [parts_eq] at member
  obtain ⟨chars, filtered, rfl⟩ := List.mem_map.mp member
  exact mem_of_mem_splitSlashes (List.mem_filter.mp filtered).1 (by simpa using inside)

/-- A name behind an open front stands between slashes by itself. -/
theorem splitSlashes_append {front name : String} (ends : EndsOpen front)
    (noSlash : '/' ∉ name.toList) :
    ∃ before, splitSlashes (front ++ name).toList = before ++ [name.toList] ∧
      parts front = (before.filter isNamed).map String.ofList := by
  rcases ends with rfl | slash
  · refine ⟨[], ?_, rfl⟩
    rw [String.empty_append, splitSlashes_eq, List.splitOn_eq_singleton noSlash, List.nil_append]
  · obtain ⟨initial, split⟩ := List.getLast?_eq_some_iff.mp slash
    refine ⟨splitSlashes initial, ?_, ?_⟩
    · rw [String.toList_append, split, List.append_assoc, List.singleton_append, splitSlashes_eq,
        splitSlashes_eq, List.splitOn_append_cons_self, List.splitOn_eq_singleton noSlash]
    · rw [parts_eq, split, splitSlashes_eq, splitSlashes_eq, List.splitOn_append_cons_self,
        List.filter_append]
      simp [isNamed]

theorem parts_append {front name : String} (ends : EndsOpen front) (proper : IsPart name) :
    parts (front ++ name) = parts front ++ [name] := by
  obtain ⟨before, split, isFront⟩ := splitSlashes_append ends proper.noSlash
  rw [parts_eq, split, isFront, List.filter_append, List.map_append,
    List.filter_cons_of_pos proper.isNamed]
  simp

theorem parts_append_slash (front : String) : parts (front ++ "/") = parts front := by
  rw [parts_eq, parts_eq, String.toList_append, splitSlashes_eq, splitSlashes_eq]
  simp [isNamed, List.splitOn_append_cons_self]

theorem parts_slash_append (path : String) : parts ("/" ++ path) = parts path := by
  rw [parts_eq, parts_eq, String.toList_append, splitSlashes_eq, splitSlashes_eq]
  simp [isNamed, List.splitOn_cons_eq_if_modifyHead]

theorem parts_intercalate {names : List String} (proper : ∀ name ∈ names, IsPart name) :
    parts (String.intercalate "/" names) = names := by
  cases names with
  | nil => rfl
  | cons name rest =>
    have apart : ∀ part ∈ (name :: rest).map String.toList, '/' ∉ part := by
      intro part member
      obtain ⟨name, present, rfl⟩ := List.mem_map.mp member
      exact (proper name present).noSlash
    have named : ((name :: rest).map String.toList).filter isNamed =
        (name :: rest).map String.toList := by
      rw [List.filter_eq_self]
      intro part member
      obtain ⟨name, present, rfl⟩ := List.mem_map.mp member
      exact (proper name present).isNamed
    rw [parts_eq, String.toList_intercalate, splitSlashes_eq,
      show "/".toList = ['/'] from rfl, List.splitOn_intercalate '/' apart (by simp), named]
    simp [Function.comp_def]

/-- A path put together from parts has these parts. -/
theorem parts_ofParts {names : List String} (proper : ∀ name ∈ names, IsPart name)
    (absolute : Bool) : parts (ofParts absolute names) = names := by
  cases absolute with
  | true => rw [ofParts, if_pos rfl, parts_slash_append, parts_intercalate proper]
  | false => rw [ofParts, if_neg (by simp), String.empty_append, parts_intercalate proper]

theorem isAbsolute_ofParts {names : List String} (proper : ∀ name ∈ names, IsPart name)
    (absolute : Bool) : isAbsolute (ofParts absolute names) = absolute := by
  cases absolute with
  | true => simp [isAbsolute, ofParts]
  | false =>
    cases names with
    | nil => rfl
    | cons name rest =>
      have first := proper name List.mem_cons_self
      obtain ⟨c, more, split⟩ := List.exists_cons_of_ne_nil (l := name.toList)
        (by simpa using first.nonempty)
      have noSlash : c ≠ '/' := by
        have clear := first.noSlash
        rw [split, List.mem_cons, not_or] at clear
        exact Ne.symm clear.1
      cases rest <;> simp [isAbsolute, ofParts, split, noSlash]

/-- Putting a path together from its own parts leaves out what names nothing. -/
theorem parts_ofParts_parts (absolute : Bool) (path : String) :
    parts (ofParts absolute (parts path)) = parts path :=
  parts_ofParts (fun _ => isPart_of_mem_parts) absolute

theorem isAbsolute_ofParts_parts (absolute : Bool) (path : String) :
    isAbsolute (ofParts absolute (parts path)) = absolute :=
  isAbsolute_ofParts (fun _ => isPart_of_mem_parts) absolute

theorem mem_intercalate {names : List String} {c : Char}
    (inside : c ∈ (String.intercalate "/" names).toList) :
    c = '/' ∨ ∃ name ∈ names, c ∈ name.toList := by
  induction names with
  | nil => simp at inside
  | cons name rest ih =>
    cases rest with
    | nil => exact Or.inr ⟨name, by simp, by simpa using inside⟩
    | cons next rest =>
      rw [String.intercalate_cons_cons, String.toList_append, String.toList_append,
        List.mem_append, List.mem_append] at inside
      rcases inside with (first | slash) | others
      · exact Or.inr ⟨name, by simp, first⟩
      · exact Or.inl (by simpa using slash)
      · exact (ih others).imp_right fun ⟨name, member, inside⟩ =>
          ⟨name, List.mem_cons_of_mem _ member, inside⟩

theorem mem_intercalate_of_mem {names : List String} {name : String} (member : name ∈ names)
    {c : Char} (inside : c ∈ name.toList) : c ∈ (String.intercalate "/" names).toList := by
  induction names with
  | nil => cases member
  | cons first rest ih =>
    cases rest with
    | nil =>
      obtain rfl := List.mem_singleton.mp member
      simpa using inside
    | cons next rest =>
      rw [String.intercalate_cons_cons, String.toList_append, List.mem_append]
      rcases List.mem_cons.mp member with rfl | later
      · exact Or.inl (by simp [inside])
      · exact Or.inr (ih later)

theorem mem_ofParts_of_mem {names : List String} {name : String} (member : name ∈ names) {c : Char}
    (inside : c ∈ name.toList) (absolute : Bool) : c ∈ (ofParts absolute names).toList := by
  rw [ofParts, String.toList_append, List.mem_append]
  exact Or.inr (mem_intercalate_of_mem member inside)

/-- What is no part of a path is a slash or a dot. -/
theorem mem_parts_of_mem {path : String} {c : Char} (inside : c ∈ path.toList) (noSlash : c ≠ '/')
    (noDot : c ≠ '.') : ∃ part ∈ parts path, c ∈ part.toList := by
  have joined : (String.intercalate "/" ((splitSlashes path.toList).map String.ofList)).toList =
      path.toList := by
    rw [String.toList_intercalate, List.map_map, splitSlashes_eq]
    simp [Function.comp_def, List.intercalate_splitOn]
  rw [← joined] at inside
  rcases mem_intercalate inside with slash | ⟨part, member, inside⟩
  · exact absurd slash noSlash
  · obtain ⟨chars, split, rfl⟩ := List.mem_map.mp member
    refine ⟨_, ?_, inside⟩
    rw [parts_eq]
    refine List.mem_map_of_mem (List.mem_filter.mpr ⟨split, ?_⟩)
    -- a part that names nothing holds a dot at most
    rw [String.toList_ofList] at inside
    rw [isNamed, Bool.and_eq_true, bne_iff_ne]
    constructor
    · cases chars with
      | nil => cases inside
      | cons first rest => rfl
    · rintro rfl
      exact noDot (List.mem_singleton.mp inside)

/-- A path put together from parts holds nothing but them and slashes. -/
theorem mem_ofParts {absolute : Bool} {names : List String} {c : Char}
    (inside : c ∈ (ofParts absolute names).toList) : c = '/' ∨ ∃ name ∈ names, c ∈ name.toList := by
  rw [ofParts, String.toList_append, List.mem_append] at inside
  rcases inside with root | inside
  · split at root
    · exact Or.inl (by simpa using root)
    · simp at root
  · exact mem_intercalate inside

/-! ### A name at the end -/

theorem isAbsolute_append {front name : String} (ends : EndsOpen front)
    (noSlash : '/' ∉ name.toList) : isAbsolute (front ++ name) = isAbsolute front := by
  rw [isAbsolute, isAbsolute, String.toList_append]
  rcases ends with rfl | slash
  · cases split : name.toList with
    | nil => rfl
    | cons c rest =>
      rw [split, List.mem_cons, not_or] at noSlash
      simpa using Ne.symm noSlash.1
  · cases split : front.toList with
    | nil => simp [split] at slash
    | cons c rest => rfl

/-- The directory above a name. -/
theorem parent?_append {front name : String} (ends : EndsOpen front) (proper : IsPart name) :
    parent? (front ++ name) = some (ofParts (isAbsolute front) (parts front)) := by
  have named := parts_append ends proper
  rw [parent?, isAbsolute_append ends proper.noSlash]
  split
  next none => simp [named] at none
  next part rest split => rw [← split, named, List.dropLast_concat]

/-- A name is joined to a directory behind a slash. -/
theorem join_eq {base name : String} (nonempty : base ≠ "") (noSlash : '/' ∉ name.toList) :
    ∃ front, join base name = front ++ name ∧ EndsOpen front ∧
      (front = base ∨ front = base ++ "/") := by
  have relative : isAbsolute name = false := by
    rw [← String.empty_append (s := name), isAbsolute_append (Or.inl rfl) noSlash]
    rfl
  rw [join, if_neg (by simp [relative, nonempty])]
  split
  next slash => exact ⟨base, rfl, Or.inr (by simpa using slash), Or.inl rfl⟩
  next => exact ⟨base ++ "/", rfl, Or.inr (by simp), Or.inr rfl⟩

/-! ### Absolute paths -/

theorem isAbsolute_ne_empty {path : String} (absolute : isAbsolute path = true) : path ≠ "" := by
  rintro rfl
  cases absolute

/-- An absolute path stands for itself wherever it is joined to. -/
theorem join_absolute (base : String) {path : String} (absolute : isAbsolute path = true) :
    join base path = path := by
  rw [join, absolute]
  rfl

theorem isAbsolute_join {root : String} (absolute : isAbsolute root = true) (name : String) :
    isAbsolute (join root name) = true := by
  have front (rest : String) : isAbsolute (root ++ rest) = true := by
    have some : root.toList ≠ [] := by simpa using isAbsolute_ne_empty absolute
    obtain ⟨c, tail, split⟩ := List.exists_cons_of_ne_nil some
    rw [isAbsolute, split] at absolute
    rw [isAbsolute, String.toList_append, split]
    exact absolute
  unfold join
  split
  next alone =>
    rcases Bool.or_eq_true_iff.mp alone with own | empty
    · exact own
    · exact absurd (by simpa using empty) (isAbsolute_ne_empty absolute)
  · split
    · exact front name
    · rw [String.append_assoc]
      exact front _

end Path
end CameraRoll
