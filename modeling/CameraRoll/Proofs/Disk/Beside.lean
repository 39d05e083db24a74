import CameraRoll.Proofs.Disk.Loops
import CameraRoll.Proofs.Disk.Writing

/-!
Replacing a file through another one beside it: the new content is written to the path beside the
name, and what stands there is moved onto the name. If that is a link, the content is behind it.
Main statements: `IsReplaceable.replace`, by which the content is read at the name in the end and
the name can be replaced again, and `Replaced.isReplaceable_before`, by which no other names do.
-/

namespace CameraRoll

namespace FileTree

variable {tree made written after : FileTree} {front name path : String} {place goal : TreeLocation}
  {content : ByteArray} {node : Node}

/-- Where a name stands in its directory. -/
abbrev spot (place : TreeLocation) (name : String) : TreeLocation :=
  place ++ [EntryName.ofText name]

/-- Where the file is written that will be moved to a name. -/
abbrev spare (place : TreeLocation) (name : String) : TreeLocation :=
  place ++ [EntryName.ofText (name ++ ".tmp")]

theorem spot_ne_spare (place : TreeLocation) (name : String) :
    spot place name ≠ spare place name := by
  intro same
  have longer := EntryName.ofText_injective (List.singleton_inj.mp (List.append_cancel_left same))
  simpa using congrArg String.utf8ByteSize longer

theorem isName_append_tmp (named : Path.IsName name) : Path.IsName (name ++ ".tmp") := by
  have long : (name ++ ".tmp").toList.length ≥ 5 := by
    have nonempty : name.toList ≠ [] := by simpa using named.nonempty
    have := List.length_pos_of_ne_nil nonempty
    simp
    omega
  refine ⟨⟨?_, ?_, ?_⟩, ?_, ?_⟩
  · intro same
    simp [same] at long
  · intro same
    simp [same] at long
  · simp [named.noSlash]
  · intro same
    simp [same] at long
  · simp [named.noNul]

theorem utf8ByteSize_append_tmp (short : name.utf8ByteSize ≤ 251) :
    (name ++ ".tmp").utf8ByteSize ≤ EntryName.maxLength := by
  have four : ".tmp".utf8ByteSize = 4 := by decide
  rw [EntryName.maxLength, String.utf8ByteSize_append]
  omega

theorem utf8ByteSize_of_append_tmp (short : (name ++ ".tmp").utf8ByteSize ≤ EntryName.maxLength) :
    name.utf8ByteSize ≤ EntryName.maxLength := by
  rw [String.utf8ByteSize_append] at short
  omega

/-- A link at the end of a path that leads to a file or to nothing leads into no directory. -/
theorem Leads.not_isPassable (leads : tree.Leads front place) (rooted : tree.Rooted)
    (ends : Path.EndsOpen front) (named : Path.IsName name)
    (read : (∃ content, tree.read (front ++ name) = .ok content) ∨
      tree.read (front ++ name) = .error .notFound) {target : String}
    (link : tree.at? (spot place name) = some (.link target)) :
    ¬ tree.IsPassable (spot place name) target := by
  rintro ⟨nonempty, links, left, inside, enters⟩
  -- neither too many links nor a directory is what the path leads to
  have noOther (reason : String) : tree.read (front ++ name) ≠ .error (.other reason) := by
    rcases read with ⟨content, read⟩ | read <;> simp [read]
  have above := rooted.directory_of_leads leads
  -- with links enough, the target would lead into a directory
  have directory : tree.at? inside = some .directory := by
    refine rooted.directory_of_enters enters ?_
    rw [List.dropLast_concat]
    split
    · rfl
    · exact above
  obtain ⟨allowed, walked⟩ := leads.walk_append ends named
  have located := walked true
  rw [walk] at located
  split at located
  · exact noOther _ (read_of_locate_error located)
  · simp only [link] at located
    rw [if_neg (by simp), if_neg (by simp [nonempty])] at located
    cases allowed with
    | zero => exact noOther _ (read_of_locate_error located)
    | succ fewer =>
      rw [List.dropLast_concat] at enters
      -- with the links that are left it leads there too, or the walk is given up
      rcases enters.walk_fewer fewer [] with ⟨rest, same⟩ | ⟨reason, given⟩
      · rw [walk] at same
        refine noOther "is a directory" ?_
        rw [read_of_locate (located.trans same), directory]
      · exact noOther reason (read_of_locate_error (located.trans given))

theorem isPassable_beside {target : String} : tree.IsPassable (spot place name) target ↔
    tree.IsPassable (spare place name) target := by
  rw [IsPassable, IsPassable, List.dropLast_concat, List.dropLast_concat]

/-! ### Beside a name -/

theorem Leads.write_beside (leads : tree.Leads front place) (ends : Path.EndsOpen front)
    (named : Path.IsName name) (short : name.utf8ByteSize ≤ 251)
    (free : tree.IsFree (spare place name)) (content : ByteArray) :
    tree.write (front ++ (name ++ ".tmp")) content =
      .ok (tree.put (spare place name) (.file content)) := by
  have located := leads.locate_plain ends (isName_append_tmp named) (utf8ByteSize_append_tmp short)
    free.noLink true
  exact write_of_isFree located free content

/-- What stands beside a name is moved onto it, unless a directory stands there. -/
theorem Leads.rename_beside (leads : tree.Leads front place) (ends : Path.EndsOpen front)
    (named : Path.IsName name) (short : (name ++ ".tmp").utf8ByteSize ≤ EntryName.maxLength)
    (standing : tree.at? (spare place name) = some node) (noDirectory : node ≠ .directory) :
    tree.rename (front ++ (name ++ ".tmp")) (front ++ name) =
      match tree.at? (spot place name) with
      | some .directory => .error (.other "is a directory")
      | _ => .ok ((tree.erase (spare place name)).put (spot place name) node) := by
  have source := leads.locate_last ends (isName_append_tmp named) short
  have goal := leads.locate_last ends named (utf8ByteSize_of_append_tmp short)
  exact rename_of_locate source goal standing noDirectory

/-- A file was written beside a name: in the place beside it, or where a link there leads. -/
structure WrittenBeside (made written : FileTree) (front name : String) (place : TreeLocation)
    (content : ByteArray) : Prop where
  leads : made.Leads front place
  short : (name ++ ".tmp").utf8ByteSize ≤ EntryName.maxLength
  put : ∃ location, made.locate true (front ++ (name ++ ".tmp")) = .ok location ∧
    made.IsFree location ∧ written = made.put location (.file content)
  standing : written.at? (spare place name) = some (.file content) ∨
    ∃ target, written.at? (spare place name) = some (.link target) ∧
      ¬ made.IsPassable (spare place name) target

theorem Rooted.writtenBeside (rooted : made.Rooted) (leads : made.Leads front place)
    (ends : Path.EndsOpen front) (named : Path.IsName name)
    (wrote : made.write (front ++ (name ++ ".tmp")) content = .ok written) :
    WrittenBeside made written front name place content := by
  have named' := isName_append_tmp named
  obtain ⟨location, located, free, rfl⟩ := rooted.of_write wrote
  have short : (name ++ ".tmp").utf8ByteSize ≤ EntryName.maxLength := by
    obtain ⟨left, walked⟩ := leads.walk_append ends named'
    rw [walked, walk, EntryName.length_ofText] at located
    split at located
    · cases located
    next short => exact Nat.not_lt.mp short
  refine ⟨leads, short, ⟨location, located, free, rfl⟩, ?_⟩
  by_cases plain : ∀ target, made.at? (spare place name) ≠ some (.link target)
  · -- what is written to the place beside the name stands there
    have same := leads.locate_plain ends named' short plain true
    obtain rfl : spare place name = location := Except.ok.inj (same.symm.trans located)
    exact Or.inl (by rw [at?_put _ free.ne_nil, if_pos rfl])
  · obtain ⟨target, link⟩ := not_forall.mp plain
    have link : made.at? (spare place name) = some (.link target) := not_not.mp link
    have apart : spare place name ≠ location := by
      rintro rfl
      exact free.noLink target link
    -- the link leads to the file or to nothing
    have read := read_of_isFree located free
    refine Or.inr ⟨target, ?_, leads.not_isPassable rooted ends named' read link⟩
    rw [at?_put _ free.ne_nil, if_neg apart, link]

namespace WrittenBeside

variable (beside : WrittenBeside made written front name place content)
include beside

theorem shortName : name.utf8ByteSize ≤ EntryName.maxLength :=
  utf8ByteSize_of_append_tmp beside.short

theorem exists_standing :
    ∃ node, written.at? (spare place name) = some node ∧ node ≠ .directory := by
  rcases beside.standing with file | ⟨target, link, -⟩
  · exact ⟨_, file, by simp⟩
  · exact ⟨_, link, by simp⟩

/-- Directories are where they were. -/
theorem directory_iff (location : TreeLocation) :
    written.at? location = some .directory ↔ made.at? location = some .directory := by
  obtain ⟨changed, -, free, rfl⟩ := beside.put
  constructor
  · intro standing
    rcases of_at?_put free.ne_nil standing with old | ⟨-, file⟩
    · exact old
    · cases file
  · exact fun standing => (free.at?_put _ (by simp [IsFree, standing])).trans standing

/-- What was written is moved onto the name, unless a directory stands there. -/
theorem rename_eq (ends : Path.EndsOpen front) (named : Path.IsName name) {node : Node}
    (standing : written.at? (spare place name) = some node) (noDirectory : node ≠ .directory) :
    written.rename (front ++ (name ++ ".tmp")) (front ++ name) =
      match written.at? (spot place name) with
      | some .directory => .error (.other "is a directory")
      | _ => .ok ((written.erase (spare place name)).put (spot place name) node) := by
  have leads : written.Leads front place := by
    obtain ⟨location, -, free, rfl⟩ := beside.put
    exact beside.leads.put free _
  exact leads.rename_beside ends named beside.short standing noDirectory

/-- A link that is moved onto the name leads into no directory from there either, so there are no
other ways in the end than there were. -/
theorem leads_of_moved {node : Node} {other : TreeLocation}
    (standing : written.at? (spare place name) = some node)
    (moved : ((written.erase (spare place name)).put (spot place name) node).Leads front other) :
    made.Leads front other := by
  obtain ⟨changed, located, free, rfl⟩ := beside.put
  -- what is no file was there before, or is the link that was moved
  have found {location : TreeLocation} {new : Node} (noFile : ∀ content, new ≠ .file content)
      (here : (((made.put changed (.file content)).erase (spare place name)).put (spot place name)
        node).at? location = some new) :
      made.at? location = some new ∨ location = spot place name ∧ new = node := by
    rcases of_at?_put (by simp) here with old | last
    · rcases of_at?_put free.ne_nil (of_at?_erase (by simp) old) with before | ⟨-, file⟩
      · exact Or.inl before
      · exact absurd file (noFile _)
    · exact Or.inr last
  refine moved.of_links (by simp) (fun location directory => ?_) fun location target link _ => ?_
  · rcases found (by simp) directory with before | ⟨-, rfl⟩
    · exact before
    · obtain ⟨node, standing', noDirectory⟩ := beside.exists_standing
      exact absurd (Option.some.inj (standing'.symm.trans standing)) noDirectory
  · rcases found (by simp) link with before | ⟨rfl, rfl⟩
    · exact Or.inl before
    · refine Or.inr fun passable => ?_
      rcases beside.standing with file | ⟨target', link', impassable⟩
      · cases file.symm.trans standing
      · cases link'.symm.trans standing
        exact impassable (isPassable_beside.mp passable)

end WrittenBeside

/-! ### Ways without a name -/

/-- The tree without a name and without what stands beside it. -/
def without (tree : FileTree) (place : TreeLocation) (name : String) : FileTree :=
  (tree.erase (spot place name)).erase (spare place name)

/-- A way into a directory needs no place where neither a directory stands nor a link into one. -/
theorem Enters.aside {links left : Nat} {here location : TreeLocation} {steps : List Step}
    (enters : Enters tree links here steps left place)
    (noDirectory : tree.at? location ≠ some .directory)
    (impassable : ∀ target, tree.at? location = some (.link target) →
      ¬ tree.IsPassable location target) :
    Enters (tree.erase location) links here steps left place := by
  have below : location ≠ [] := by
    rintro rfl
    exact noDirectory rfl
  refine enters.mono (fun other directory => ?_) fun other target link passable => ?_
  · rw [at?_erase _ below, if_neg, directory]
    rintro rfl
    exact noDirectory directory
  · rw [at?_erase _ below, if_neg, link]
    rintro rfl
    exact impassable target link passable

/-- No directory stands at a name, and with what stands there taken away its own directory is still
there, and the path beside it leads to a file or to where one can be made. -/
structure IsReplaceable (tree : FileTree) (front name : String) (place : TreeLocation) : Prop where
  rooted : tree.Rooted
  noDirectory : tree.at? (spot place name) ≠ some .directory
  leads : (tree.erase (spot place name)).Leads front place
  beside : ∃ goal, (tree.erase (spot place name)).locate true (front ++ (name ++ ".tmp")) =
    .ok goal ∧ goal ≠ spot place name ∧ tree.IsFree goal

theorem IsReplaceable.of_isFree (rooted : tree.Rooted) (leads : tree.Leads front place)
    (ends : Path.EndsOpen front) (named : Path.IsName name) (short : name.utf8ByteSize ≤ 251)
    (settled : tree.IsFree (spot place name)) (vacant : tree.IsFree (spare place name)) :
    tree.IsReplaceable front name place where
  rooted := rooted
  noDirectory := settled.noDirectory
  leads := leads.erase settled
  beside :=
    ⟨_, (leads.erase settled).locate_plain ends (isName_append_tmp named)
      (utf8ByteSize_append_tmp short) (vacant.erase (by simp)).noLink true,
      (spot_ne_spare place name).symm, vacant⟩

/-! ### What is moved onto a name -/

/-- A file was written to where the path beside a name leads, and what stands beside the name then
was moved onto it. -/
structure Replaced (tree after : FileTree) (front name : String) (place goal : TreeLocation)
    (content : ByteArray) (node : Node) : Prop where
  rooted : tree.Rooted
  located : tree.locate true (front ++ (name ++ ".tmp")) = .ok goal
  free : tree.IsFree goal
  beside : WrittenBeside tree (tree.put goal (.file content)) front name place content
  standing : (tree.put goal (.file content)).at? (spare place name) = some node
  noDirectory : tree.at? (spot place name) ≠ some .directory
  isAfter : after =
    ((tree.put goal (.file content)).erase (spare place name)).put (spot place name) node

theorem Replaced.of_rename (rooted : tree.Rooted) (leads : tree.Leads front place)
    (ends : Path.EndsOpen front) (named : Path.IsName name)
    (wrote : tree.write (front ++ (name ++ ".tmp")) content = .ok written)
    (renamed : written.rename (front ++ (name ++ ".tmp")) (front ++ name) = .ok after) :
    ∃ goal node, Replaced tree after front name place goal content node := by
  have beside := rooted.writtenBeside leads ends named wrote
  obtain ⟨goal, located, free, rfl⟩ := rooted.of_write wrote
  obtain ⟨node, standing, moves⟩ := beside.exists_standing
  rw [beside.rename_eq ends named standing moves] at renamed
  split at renamed
  · cases renamed
  next noDirectory =>
    rw [beside.directory_iff] at noDirectory
    exact ⟨goal, node, rooted, located, free, beside, standing, noDirectory,
      (Except.ok.inj renamed).symm⟩

namespace Replaced

variable (replaced : Replaced tree after front name place goal content node)
include replaced

theorem moves : node ≠ .directory := by
  obtain ⟨there, standing, noDirectory⟩ := replaced.beside.exists_standing
  exact Option.some.inj (replaced.standing.symm.trans standing) ▸ noDirectory

theorem at?_eq (other : TreeLocation) :
    after.at? other =
      if other = spot place name then some node
      else if other = spare place name then none
      else if other = goal then some (.file content)
      else tree.at? other := by
  rw [replaced.isAfter, at?_put _ (by simp), at?_erase _ (by simp),
    at?_put _ replaced.free.ne_nil]

theorem at?_spot : after.at? (spot place name) = some node := by
  rw [replaced.at?_eq, if_pos rfl]

theorem start_eq : after.start front = tree.start front := by
  simp [start, replaced.isAfter]

theorem rooted_after : after.Rooted := by
  rw [replaced.isAfter]
  have written := replaced.rooted.write (write_of_isFree replaced.located replaced.free content)
  refine (written.erase (by simpa [replaced.standing] using replaced.moves)).put ?_ ?_ node
  · have above := replaced.rooted.directory_of_leads replaced.beside.leads
    rw [at?_erase _ (by simp), if_neg (by simp), replaced.beside.directory_iff, above]
  · rw [at?_erase _ (by simp), if_neg (spot_ne_spare place name), Ne,
      replaced.beside.directory_iff]
    exact replaced.noDirectory

/-- Ways that need neither of the two are the same after the move. -/
theorem sameWays : (tree.without place name).SameWays (after.erase (spot place name)) := by
  refine .of_free (by simp [without, replaced.isAfter]) fun other => ?_
  by_cases isGoal : other = goal
  · -- where the file was written, there is none or it is one
    refine Or.inr ⟨isGoal ▸ (replaced.free.erase (by simp)).erase (by simp), ?_⟩
    rw [IsFree, at?_erase _ (by simp), replaced.at?_eq]
    split
    · exact Or.inl rfl
    · split
      · exact Or.inl rfl
      · exact Or.inr ⟨content, rfl⟩
  · refine Or.inl ?_
    rw [without, at?_erase _ (by simp), at?_erase _ (by simp), at?_erase _ (by simp),
      replaced.at?_eq, if_neg isGoal]
    split
    · rw [ite_self]
    · rfl

/-- The link that was moved, if it was one, was there before. -/
theorem link_before {target : String} (link : node = .link target) :
    (tree.erase (spot place name)).at? (spare place name) = some (.link target) := by
  have before := of_at?_put replaced.free.ne_nil (link ▸ replaced.standing)
  rw [at?_erase _ (by simp), if_neg (spot_ne_spare place name).symm]
  exact before.resolve_right (by simp)

/-- Ways in the tree without the name are there after the move. -/
theorem enters {links left : Nat} {here other : TreeLocation} {steps : List Step}
    (enters : Enters (tree.erase (spot place name)) links here steps left other) :
    Enters (after.erase (spot place name)) links here steps left other := by
  have kept : (tree.erase (spot place name)).at? (spare place name) =
      tree.at? (spare place name) := by
    rw [at?_erase _ (by simp), if_neg (spot_ne_spare place name).symm]
  refine replaced.sameWays.1.enters (enters.aside ?_ fun target link passable => ?_)
  · rw [kept, Ne, ← replaced.beside.directory_iff, replaced.standing]
    simpa using replaced.moves
  · -- the link still stands there after the file was written behind it
    rw [kept] at link
    have kept : ¬ tree.IsFree (spare place name) := by simp [IsFree, link]
    have still := replaced.free.at?_put (.file content) kept
    rcases replaced.beside.standing with file | ⟨target', link', impassable⟩
    · cases file.symm.trans (still.trans link)
    · cases link'.symm.trans (still.trans link)
      exact impassable ((KeepsWays.of_erase (by simp)).isPassable passable)

theorem leads (leads : (tree.erase (spot place name)).Leads front place) :
    (after.erase (spot place name)).Leads front place := by
  obtain ⟨noNul, left, enters⟩ := leads
  refine ⟨noNul, left, ?_⟩
  rw [show (after.erase (spot place name)).start front =
    (tree.erase (spot place name)).start front from replaced.start_eq]
  exact replaced.enters enters

/-- What was written is read at the name. -/
theorem read (leads : (tree.erase (spot place name)).Leads front place)
    (ends : Path.EndsOpen front) (named : Path.IsName name)
    (located : (tree.erase (spot place name)).locate true (front ++ (name ++ ".tmp")) = .ok goal)
    (apart : goal ≠ spot place name) : after.read (front ++ name) = .ok content := by
  have back : (after.erase (spot place name)).KeepsWays after := .of_erase (by simp)
  rcases replaced.beside.standing with file | ⟨target, link, -⟩
  -- the file itself was moved, or the link that it is behind
  · have atSpot := replaced.at?_spot.trans (replaced.standing.symm.trans file)
    have plain := (back.leads (replaced.leads leads)).locate_plain ends named
      replaced.beside.shortName (by simp [atSpot]) true
    exact read_eq_ok.mpr ⟨_, plain, atSpot⟩
  · have isLink := Option.some.inj (replaced.standing.symm.trans link)
    have before := replaced.link_before isLink
    have noSpare : goal ≠ spare place name := by
      rintro rfl
      exact (replaced.free.erase (by simp)).noLink target before
    have atGoal : after.at? goal = some (.file content) := by
      rw [replaced.at?_eq, if_neg apart, if_neg noSpare, if_pos rfl]
    -- the link leads there from the name, too, with as many links left
    obtain ⟨noNul, left, enters⟩ := leads
    have enters' := back.enters (replaced.enters enters)
    rw [enters.locate_append noNul ends (isName_append_tmp named) true] at located
    have arrived := walk_moved_link before located
      (by rw [EntryName.length_ofText]; exact replaced.beside.shortName)
      (isLink ▸ replaced.at?_spot) (replaced.sameWays.1.trans back) (Or.inr ⟨content, atGoal⟩)
    refine read_eq_ok.mpr ⟨goal, ?_, atGoal⟩
    rw [Enters.locate_append (replaced.start_eq ▸ enters') noNul ends named true, arrived]

theorem isReplaceable (leads : (tree.erase (spot place name)).Leads front place)
    (ends : Path.EndsOpen front) (named : Path.IsName name) :
    after.IsReplaceable front name place := by
  have nothing : after.at? (spare place name) = none := by
    rw [replaced.at?_eq, if_neg (spot_ne_spare place name).symm, if_pos rfl]
  have still := replaced.leads leads
  refine ⟨replaced.rooted_after, ?_, still, spare place name, ?_,
    (spot_ne_spare place name).symm, Or.inl nothing⟩
  · rw [replaced.at?_spot]
    simpa using replaced.moves
  · refine still.locate_plain ends (isName_append_tmp named) replaced.beside.short ?_ true
    exact (IsFree.erase (Or.inl nothing) (by simp)).noLink

theorem keepsWays : (after.erase (spot place name)).KeepsWays (tree.erase (spot place name)) :=
  replaced.sameWays.2.trans (.of_erase (by simp))

/-- What was moved onto a name that can be read is not on the way to the name. -/
theorem enters_before (ends : Path.EndsOpen front) (named : Path.IsName name) {held : ByteArray}
    (read : after.read (front ++ name) = .ok held) (leads : after.Leads front place)
    {links left : Nat} {here other : TreeLocation} {steps : List Step}
    (enters : Enters after links here steps left other) :
    Enters (tree.erase (spot place name)) links here steps left other := by
  refine replaced.keepsWays.enters (enters.aside ?_ fun target link => ?_)
  · simpa [replaced.at?_spot] using replaced.moves
  · exact leads.not_isPassable replaced.rooted_after ends named (Or.inl ⟨held, read⟩) link

/-- The name could be replaced if a file is read at it afterwards. -/
theorem isReplaceable_before (ends : Path.EndsOpen front) (named : Path.IsName name)
    {held : ByteArray} (read : after.read (front ++ name) = .ok held) :
    tree.IsReplaceable front name place := by
  obtain ⟨final, located, file⟩ := read_eq_ok.mp read
  -- the directory of the name is the one that it was
  obtain ⟨other, moved⟩ := Leads.of_locate_append ends named located
  obtain rfl : other = place :=
    (replaced.beside.leads_of_moved replaced.standing (replaced.isAfter ▸ moved)).unique
      replaced.beside.leads
  have ⟨noNul, left, enters⟩ := moved
  have before := replaced.enters_before ends named read moved enters
  rw [replaced.start_eq] at before
  have leads : (tree.erase (spot other name)).Leads front other := ⟨noNul, left, before⟩
  refine ⟨replaced.rooted, replaced.noDirectory, leads, ?_⟩
  have named' := isName_append_tmp named
  rcases replaced.beside.standing with written | ⟨target, link, -⟩
  · have free : tree.IsFree (spare other name) := by
      by_contra kept
      exact kept (Or.inr ⟨content, (replaced.free.at?_put _ kept).symm.trans written⟩)
    exact ⟨_, leads.locate_plain ends named' replaced.beside.short (free.erase (by simp)).noLink
      true, (spot_ne_spare other name).symm, free⟩
  · have isLink := Option.some.inj (replaced.standing.symm.trans link)
    have atSpot := isLink ▸ replaced.at?_spot
    have apart : final ≠ spot other name := by
      rintro rfl
      cases atSpot.symm.trans file
    have free : tree.IsFree final := by
      rw [replaced.at?_eq, if_neg apart] at file
      split at file
      · cases file
      · split at file
        next same => exact same ▸ replaced.free
        next => exact Or.inr ⟨held, file⟩
    -- the link led there from beside the name, too, with as many links left
    rw [enters.locate_append noNul ends named true] at located
    have arrived := walk_moved_link atSpot located
      (by rw [EntryName.length_ofText]; exact replaced.beside.short)
      (replaced.link_before isLink) replaced.keepsWays (free.erase (by simp))
    exact ⟨final, (before.locate_append noNul ends named' true).trans arrived, apart, free⟩

end Replaced

/-! ### Names that can be replaced -/

/-- A file that is written beside the name and then moved to it is read at the name, and the name
can be replaced again. -/
theorem IsReplaceable.replace (replaceable : tree.IsReplaceable front name place)
    (ends : Path.EndsOpen front) (named : Path.IsName name) (content : ByteArray) :
    ∃ written replaced, tree.write (front ++ (name ++ ".tmp")) content = .ok written ∧
      written.rename (front ++ (name ++ ".tmp")) (front ++ name) = .ok replaced ∧
      replaced.IsReplaceable front name place ∧ replaced.read (front ++ name) = .ok content := by
  obtain ⟨rooted, noDirectory, leads, goal, located, apart, free⟩ := replaceable
  have keeps : (tree.erase (spot place name)).KeepsWays tree := .of_erase (by simp)
  have wrote := write_of_isFree (keeps.locate located fun _ => free) free content
  have beside := rooted.writtenBeside (keeps.leads leads) ends named wrote
  obtain ⟨node, standing, moves⟩ := beside.exists_standing
  have renamed := beside.rename_eq ends named standing moves
  split at renamed
  next directory => exact absurd ((beside.directory_iff _).mp directory) noDirectory
  next =>
    have replaced : Replaced tree _ front name place goal content node :=
      ⟨rooted, keeps.locate located fun _ => free, free, beside, standing, noDirectory, rfl⟩
    exact ⟨_, _, wrote, renamed, replaced.isReplaceable leads ends named,
      replaced.read leads ends named located apart⟩

end FileTree

end CameraRoll
