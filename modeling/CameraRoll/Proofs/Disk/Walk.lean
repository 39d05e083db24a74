import CameraRoll.Proofs.Disk.Nodes
import CameraRoll.Proofs.Disk.Parts
import CameraRoll.Proofs.Outcome

/-!
Where paths lead in a tree of files. A walk that ends in a directory is a relation of its own,
`Enters`: it can be put together and taken apart, and it depends on nothing but the directories and
links on its way. Main statements: `Enters.walk_append` and `walk_cases` for walks, and
`Leads.locate_append` and `Leads.locate_join` for the path of a name in a directory.
-/

namespace CameraRoll

namespace FileTree

variable {tree : FileTree}

/-- Steps lead from one directory into another. The numbers are those of the links that may still
be followed, before and after. -/
inductive Enters (tree : FileTree) : Nat → TreeLocation → List Step → Nat → TreeLocation → Prop
  | here {links : Nat} {here : TreeLocation} : Enters tree links here [] links here
  | stay {links left : Nat} {here place : TreeLocation} {rest : List Step} :
    Enters tree links here rest left place → Enters tree links here (.stay :: rest) left place
  | up {links left : Nat} {here place : TreeLocation} {rest : List Step} :
    Enters tree links here.dropLast rest left place →
    Enters tree links here (.up :: rest) left place
  | into {links left : Nat} {here place : TreeLocation} {name : EntryName} {rest : List Step} :
    name.length ≤ EntryName.maxLength → tree.at? (here ++ [name]) = some .directory →
    Enters tree links (here ++ [name]) rest left place →
    Enters tree links here (.into name :: rest) left place
  | along {links between left : Nat} {here middle place : TreeLocation} {name : EntryName}
      {target : String} {rest : List Step} :
    name.length ≤ EntryName.maxLength → tree.at? (here ++ [name]) = some (.link target) →
    target.isEmpty = false →
    Enters tree links (if Path.isAbsolute target then [] else here) (steps target) between middle →
    Enters tree between middle rest left place →
    Enters tree (links + 1) here (.into name :: rest) left place

/-- A link leads into a directory, if enough links may be followed. -/
def IsPassable (tree : FileTree) (location : TreeLocation) (target : String) : Prop :=
  target.isEmpty = false ∧ ∃ links left place, Enters tree links
    (if Path.isAbsolute target then [] else location.dropLast) (steps target) left place

theorem IsPassable.intro {links left : Nat} {here place : TreeLocation} {name : EntryName}
    {target : String} (nonempty : target.isEmpty = false)
    (enters : Enters tree links (if Path.isAbsolute target then [] else here) (steps target) left
      place) : tree.IsPassable (here ++ [name]) target :=
  ⟨nonempty, links, left, place, by rwa [List.dropLast_concat]⟩

namespace Enters

variable {links between left : Nat} {here middle place : TreeLocation} {front back : List Step}

theorem append (first : Enters tree links here front between middle)
    (second : Enters tree between middle back left place) :
    Enters tree links here (front ++ back) left place := by
  induction first with
  | here => exact second
  | stay _ ih => exact .stay (ih second)
  | up _ ih => exact .up (ih second)
  | into short standing _ ih => exact .into short standing (ih second)
  | along short standing some target _ _ ih => exact .along short standing some target (ih second)

theorem of_append (whole : Enters tree links here (front ++ back) left place) :
    ∃ between middle, Enters tree links here front between middle ∧
      Enters tree between middle back left place := by
  induction front generalizing links here with
  | nil => exact ⟨links, here, .here, whole⟩
  | cons step rest ih =>
    cases whole with
    | stay inner =>
      obtain ⟨between, middle, first, second⟩ := ih inner
      exact ⟨between, middle, .stay first, second⟩
    | up inner =>
      obtain ⟨between, middle, first, second⟩ := ih inner
      exact ⟨between, middle, .up first, second⟩
    | into short standing inner =>
      obtain ⟨between, middle, first, second⟩ := ih inner
      exact ⟨between, middle, .into short standing first, second⟩
    | along short standing named target inner =>
      obtain ⟨between, middle, first, second⟩ := ih inner
      exact ⟨between, middle, .along short standing named target first, second⟩

/-- A walk goes on from the directory that its first steps lead into. -/
theorem walk_append (enters : Enters tree links here front left place) (follow : Bool)
    (more : back ≠ []) :
    tree.walk follow links here (front ++ back) = tree.walk follow left place back := by
  induction enters generalizing back with
  | here => rfl
  | stay _ ih => rw [List.cons_append, walk, ih more]
  | up _ ih => rw [List.cons_append, walk, ih more]
  | into short standing _ ih =>
    rw [List.cons_append, walk, if_neg (by omega)]
    simp only [standing]
    exact ih more
  | along short standing named _ _ target ih =>
    rw [List.cons_append, walk, if_neg (by omega)]
    simp only [standing]
    rw [if_neg (by simp [more]), if_neg (by simp [named])]
    -- first on the way of the link, then on what was left of the own way
    rw [target (by simp [more]), ih more]

theorem walk_true (enters : Enters tree links here front left place) :
    tree.walk true links here front = .ok place := by
  induction enters with
  | here => rw [walk]
  | stay _ ih => rw [walk, ih]
  | up _ ih => rw [walk, ih]
  | into short standing _ ih =>
    rw [walk, if_neg (by omega)]
    simp only [standing]
    exact ih
  | @along links between left here middle place name target rest short standing named first second
      toMiddle toPlace =>
    rw [walk, if_neg (by omega)]
    simp only [standing]
    rw [if_neg (by simp), if_neg (by simp [named])]
    by_cases last : rest = []
    · -- the link is the last step, and followed since the walk is to
      subst last
      cases second
      rw [List.append_nil, toMiddle]
    · rw [first.walk_append true last, toPlace]

/-- A way into a directory stays unless a directory on it goes, or a link that leads into one in both
trees. -/
theorem of_links {other : FileTree} (enters : Enters tree links here front left place)
    (directories : ∀ location, tree.at? location = some .directory →
      other.at? location = some .directory)
    (linked : ∀ location target, tree.at? location = some (.link target) →
      tree.IsPassable location target →
      other.at? location = some (.link target) ∨ ¬ other.IsPassable location target) :
    Enters other links here front left place := by
  induction enters with
  | here => exact .here
  | stay _ ih => exact .stay ih
  | up _ ih => exact .up ih
  | into short standing _ ih => exact .into short (directories _ standing) ih
  | along short standing named inner _ target ih =>
    rcases linked _ _ standing (.intro named inner) with same | impassable
    · exact .along short same named target ih
    -- the way of the link itself has been shown to stay
    · exact absurd (.intro named target) impassable

/-- The directories of a tree and the links that lead into one are all that a way into a directory
needs. -/
theorem mono {other : FileTree} (enters : Enters tree links here front left place)
    (directories : ∀ location, tree.at? location = some .directory →
      other.at? location = some .directory)
    (linked : ∀ location target, tree.at? location = some (.link target) →
      tree.IsPassable location target → other.at? location = some (.link target)) :
    Enters other links here front left place :=
  enters.of_links directories fun location target link passable =>
    Or.inl (linked location target link passable)

/-- With fewer links to follow, a walk leads the same way or is given up. -/
theorem walk_fewer (enters : Enters tree links here front left place) (fewer : Nat)
    (back : List Step) :
    (∃ rest, tree.walk true fewer here (front ++ back) = tree.walk true rest place back) ∨
      ∃ reason, tree.walk true fewer here (front ++ back) = .error (.other reason) := by
  induction enters generalizing fewer back with
  | here => exact Or.inl ⟨fewer, rfl⟩
  | stay _ ih =>
    rw [List.cons_append, walk]
    exact ih fewer back
  | up _ ih =>
    rw [List.cons_append, walk]
    exact ih fewer back
  | into short standing _ ih =>
    rw [List.cons_append, walk, if_neg (by omega)]
    simp only [standing]
    exact ih fewer back
  | @along links between left here middle place name target rest short standing named _ _ toMiddle
      toPlace =>
    rw [List.cons_append, walk, if_neg (by omega)]
    simp only [standing]
    rw [if_neg (by simp), if_neg (by simp [named])]
    cases fewer with
    | zero => exact Or.inr ⟨_, rfl⟩
    | succ fewer =>
      dsimp only
      -- the way of the link may use up links, so the rest starts with any number of them
      rcases toMiddle fewer (rest ++ back) with ⟨remaining, same⟩ | ⟨reason, given⟩
      · rw [same]
        exact toPlace remaining back
      · exact Or.inr ⟨reason, given⟩

theorem filter_stay (enters : Enters tree links here front left place) :
    Enters tree links here (front.filter (· ≠ .stay)) left place := by
  induction enters with
  | here => exact .here
  | stay _ ih => simpa using ih
  | up _ ih => simpa using ih.up
  | into short standing _ ih => simpa using ih.into short standing
  | along short standing named target _ _ ih =>
    simpa using Enters.along short standing named target ih

theorem of_filter_stay (enters : Enters tree links here (front.filter (· ≠ .stay)) left place) :
    Enters tree links here front left place := by
  induction front generalizing links here with
  | nil => exact enters
  | cons step rest ih =>
    cases step with
    | stay => exact .stay (ih (by simpa using enters))
    | up =>
      have : Enters tree links here (.up :: rest.filter (· ≠ .stay)) left place := by
        simpa using enters
      cases this with
      | up inner => exact .up (ih inner)
    | into name =>
      have : Enters tree links here (.into name :: rest.filter (· ≠ .stay)) left place := by
        simpa using enters
      cases this with
      | into short standing inner => exact .into short standing (ih inner)
      | along short standing named target inner =>
        exact .along short standing named target (ih inner)

end Enters

/-- The last step is to a name in a directory that the steps before it lead into. -/
def EndsAt (tree : FileTree) (links : Nat) (here : TreeLocation) (path : List Step)
    (place : TreeLocation) : Prop :=
  ∃ front left above name, path = front ++ [.into name] ∧ Enters tree links here front left above ∧
    place = above ++ [name] ∧ name.length ≤ EntryName.maxLength

namespace EndsAt

variable {links between : Nat} {here middle place : TreeLocation} {front path : List Step}

theorem single (name : EntryName) (short : name.length ≤ EntryName.maxLength) :
    EndsAt tree links here [.into name] (here ++ [name]) :=
  ⟨[], links, here, name, rfl, .here, rfl, short⟩

theorem after (last : EndsAt tree between middle path place)
    (enters : Enters tree links here front between middle) :
    EndsAt tree links here (front ++ path) place := by
  obtain ⟨inner, left, above, name, rfl, enters', found⟩ := last
  exact ⟨front ++ inner, left, above, name, (List.append_assoc _ _ _).symm, enters.append enters',
    found⟩

/-- A link may stand for its target on the way. -/
theorem along {name : EntryName} {target : String} {rest : List Step}
    (last : EndsAt tree links (if Path.isAbsolute target then [] else here) (steps target ++ rest)
      place) (onward : rest ≠ []) (short : name.length ≤ EntryName.maxLength)
    (standing : tree.at? (here ++ [name]) = some (.link target))
    (nonempty : target.isEmpty = false) :
    EndsAt tree (links + 1) here (.into name :: rest) place := by
  obtain ⟨front, left, above, final, split, enters, found⟩ := last
  -- the last step is one behind the link
  obtain ⟨initial, step, rfl⟩ : ∃ initial step, rest = initial ++ [step] := by
    rcases List.eq_nil_or_concat rest with rfl | ⟨initial, step, rfl⟩
    · exact absurd rfl onward
    · exact ⟨initial, step, List.concat_eq_append⟩
  rw [← List.append_assoc] at split
  obtain ⟨rfl, isLast⟩ := List.append_inj' split rfl
  obtain rfl := List.singleton_inj.mp isLast
  obtain ⟨between, middle, first, second⟩ := enters.of_append
  exact ⟨.into name :: initial, left, above, final, rfl,
    .along short standing nonempty first second, found⟩

end EndsAt

/-- Where a walk arrives: in a directory, or at a last step that leads into none. -/
theorem walk_cases {follow : Bool} {links : Nat} {here place : TreeLocation} {path : List Step}
    (arrived : tree.walk follow links here path = .ok place) :
    (∃ left, Enters tree links here path left place) ∨
    (tree.at? place ≠ some .directory ∧ (follow = false → EndsAt tree links here path place)) := by
  fun_induction walk tree follow links here path
  case case1 links here =>
    cases arrived
    exact Or.inl ⟨_, .here⟩
  case case2 links here rest ih =>
    rcases ih arrived with ⟨left, enters⟩ | ⟨outside, last⟩
    · exact Or.inl ⟨left, .stay enters⟩
    · exact Or.inr ⟨outside, fun stop => (last stop).after (.stay .here)⟩
  case case3 links here rest ih =>
    rcases ih arrived with ⟨left, enters⟩ | ⟨outside, last⟩
    · exact Or.inl ⟨left, .up enters⟩
    · exact Or.inr ⟨outside, fun stop => (last stop).after (.up .here)⟩
  case case7 links here name rest there long standing ih =>
    have short : name.length ≤ EntryName.maxLength := by omega
    rcases ih arrived with ⟨left, enters⟩ | ⟨outside, last⟩
    · exact Or.inl ⟨left, .into short standing enters⟩
    · exact Or.inr ⟨outside, fun stop => (last stop).after (.into short standing .here)⟩
  case case13 here name rest there long target standing onward named links ih =>
    have short : name.length ≤ EntryName.maxLength := by omega
    have named : target.isEmpty = false := by simpa using named
    simp only [dite_eq_ite] at ih
    rcases ih arrived with ⟨left, enters⟩ | ⟨outside, last⟩
    · obtain ⟨between, middle, first, second⟩ := enters.of_append
      exact Or.inl ⟨left, .along short standing named first second⟩
    · refine Or.inr ⟨outside, ?_⟩
      rintro rfl
      exact (last rfl).along (by simpa using onward) short standing named
  -- the last step leads to what is no directory
  case case5 links here name rest there long nothing last =>
    obtain rfl : rest = [] := List.isEmpty_iff.mp last
    obtain rfl : there = place := Except.ok.inj arrived
    exact Or.inr ⟨by simp [nothing], fun _ => .single name (by omega)⟩
  case case8 links here name rest there long content standing last =>
    obtain rfl : rest = [] := List.isEmpty_iff.mp last
    obtain rfl : there = place := Except.ok.inj arrived
    exact Or.inr ⟨by simp [standing], fun _ => .single name (by omega)⟩
  case case10 links here name rest there long target standing last =>
    obtain rfl : rest = [] := List.isEmpty_iff.mp (Bool.and_eq_true_iff.mp last).1
    obtain rfl : there = place := Except.ok.inj arrived
    exact Or.inr ⟨by simp [standing], fun _ => .single name (by omega)⟩
  -- all others are failures
  all_goals cases arrived

/-- A walk that arrives comes through a directory before every one of its steps. -/
theorem enters_of_walk_append {follow : Bool} {links : Nat} {here place : TreeLocation}
    {front back : List Step} (more : back ≠ [])
    (arrived : tree.walk follow links here (front ++ back) = .ok place) :
    ∃ left above, Enters tree links here front left above := by
  generalize whole : front ++ back = path at arrived
  fun_induction walk tree follow links here path generalizing front
  case case1 links here => exact absurd (List.append_eq_nil_iff.mp whole).2 more
  -- there is nothing to show for no step
  all_goals
    rcases front with _ | ⟨step, front⟩
    · exact ⟨_, _, .here⟩
    rw [List.cons_append] at whole
    obtain ⟨rfl, rfl⟩ := List.cons_eq_cons.mp whole
  case case2.cons links here ih =>
    obtain ⟨left, above, enters⟩ := ih rfl arrived
    exact ⟨left, above, .stay enters⟩
  case case3.cons links here ih =>
    obtain ⟨left, above, enters⟩ := ih rfl arrived
    exact ⟨left, above, .up enters⟩
  case case7.cons links here name there long standing ih =>
    obtain ⟨left, above, enters⟩ := ih rfl arrived
    exact ⟨left, above, .into (by omega) standing enters⟩
  case case13.cons here name there long target standing named links onward ih =>
    obtain ⟨left, above, enters⟩ := ih (List.append_assoc _ _ _) arrived
    obtain ⟨between, middle, first, second⟩ := enters.of_append
    exact ⟨left, above, .along (by omega) standing (by simpa using named) first second⟩
  -- the other steps are last ones, or failures
  all_goals simp_all

/-- A link at the end that is followed. -/
theorem walk_link {links : Nat} {here : TreeLocation} {name : EntryName} {target : String}
    (short : name.length ≤ EntryName.maxLength)
    (link : tree.at? (here ++ [name]) = some (.link target)) (nonempty : target.isEmpty = false) :
    tree.walk true (links + 1) here [.into name] =
      tree.walk true links (if Path.isAbsolute target then [] else here) (steps target) := by
  rw [walk, if_neg (by omega)]
  simp only [link]
  rw [if_neg (by simp), if_neg (by simp [nonempty]), List.append_nil]

/-! ### Paths -/

variable {tree : FileTree} {front path name : String} {place : TreeLocation}

/-- The step that a part between slashes makes. -/
private def stepOf (part : List Char) : Step :=
  if part = ['.'] then .stay
  else if part = ['.', '.'] then .up
  else .into (EntryName.ofText (String.ofList part))

/-- The step that a part of a path makes. -/
def partStep (part : String) : Step :=
  if part = ".." then .up else .into (EntryName.ofText part)

private theorem stepOf_of_isNamed {part : List Char} (named : Path.isNamed part = true) :
    stepOf part = partStep (String.ofList part) := by
  simp only [Path.isNamed, Bool.and_eq_true, bne_iff_ne] at named
  rw [stepOf, if_neg named.2, partStep]
  by_cases up : part = ['.', '.']
  · rw [if_pos up, if_pos (by rw [up])]
  · rw [if_neg up, if_neg fun same => up (by simpa using congrArg String.toList same)]

private theorem filter_stepOf (split : List (List Char)) :
    ((split.filter (!·.isEmpty)).map stepOf).filter (· ≠ .stay) =
      ((split.filter Path.isNamed).map String.ofList).map partStep := by
  induction split with
  | nil => rfl
  | cons part rest ih =>
    by_cases empty : part = []
    · simpa [empty, Path.isNamed] using ih
    · by_cases dot : part = ['.']
      · simpa [dot, Path.isNamed, stepOf] using ih
      · have named : Path.isNamed part = true := by simp [Path.isNamed, empty, dot]
        have moves : stepOf part ≠ .stay := by
          rw [stepOf, if_neg dot]
          split <;> simp
        rw [List.filter_cons_of_pos (by simpa using empty), List.map_cons,
          List.filter_cons_of_pos (by simpa using moves), List.filter_cons_of_pos named, ih,
          stepOf_of_isNamed named, List.map_cons, List.map_cons]

private theorem steps_eq (path : String) :
    steps path = (((Path.splitSlashes path.toList).filter (!·.isEmpty)).map stepOf) ++
      if (Path.splitSlashes path.toList).length > 1 &&
        (Path.splitSlashes path.toList).getLast? = some [] then [.stay] else [] := by
  unfold steps
  dsimp only
  split
  · rfl
  · rw [List.append_nil]
    rfl

theorem filter_steps (path : String) :
    (steps path).filter (· ≠ .stay) = (Path.parts path).map partStep := by
  rw [steps_eq, List.filter_append, filter_stepOf, ← Path.parts_eq]
  split <;> simp

/-- The last step of a path that ends in a name. -/
theorem steps_append (ends : Path.EndsOpen front) (named : Path.IsName name) :
    ∃ before, steps (front ++ name) = before ++ [.into (EntryName.ofText name)] ∧
      before.filter (· ≠ .stay) = (Path.parts front).map partStep := by
  obtain ⟨before, split, isFront⟩ := Path.splitSlashes_append ends named.noSlash
  have nonempty : name.toList ≠ [] := by simpa using named.nonempty
  have last : stepOf name.toList = .into (EntryName.ofText name) := by
    rw [stepOf_of_isNamed named.isNamed, String.ofList_toList, partStep, if_neg named.noUp]
  refine ⟨(before.filter (!·.isEmpty)).map stepOf, ?_, by rw [filter_stepOf, isFront]⟩
  rw [steps_eq, split, List.filter_append, List.filter_cons_of_pos (by simpa using nonempty),
    if_neg (by simp [nonempty]), List.map_append, List.append_nil]
  simp [last]

/-- Where a walk along a path starts. -/
def start (tree : FileTree) (path : String) : TreeLocation :=
  if Path.isAbsolute path then [] else tree.workingDirectory

/-- The parts of a path lead from directory to directory, and into this one. -/
structure Leads (tree : FileTree) (path : String) (place : TreeLocation) : Prop where
  noNul : '\x00' ∉ path.toList
  enters : ∃ left,
    Enters tree maxLinks (tree.start path) ((Path.parts path).map partStep) left place

theorem leads_empty (tree : FileTree) : tree.Leads "" tree.workingDirectory :=
  ⟨by decide, maxLinks, .here⟩

theorem leads_slash (tree : FileTree) : tree.Leads "/" [] :=
  ⟨by decide, maxLinks, .here⟩

theorem locate_eq (tree : FileTree) (follow : Bool) (nonempty : path ≠ "")
    (noNul : '\x00' ∉ path.toList) :
    tree.locate follow path = tree.walk follow maxLinks (tree.start path) (steps path) := by
  rw [locate, if_neg (by simpa using nonempty), if_neg (by simpa using noNul)]
  rfl

theorem locate_ok {follow : Bool} (located : tree.locate follow path = .ok place) :
    path ≠ "" ∧ '\x00' ∉ path.toList := by
  unfold locate at located
  split at located
  · cases located
  · split at located
    · cases located
    next nonempty noNul => exact ⟨by simpa using nonempty, by simpa using noNul⟩

theorem Leads.of_locate {follow : Bool} (located : tree.locate follow path = .ok place)
    (directory : tree.at? place = some .directory) : tree.Leads path place := by
  obtain ⟨nonempty, noNul⟩ := locate_ok located
  rw [locate_eq tree follow nonempty noNul] at located
  rcases walk_cases located with ⟨left, enters⟩ | ⟨outside, -⟩
  · -- the parts of a path are its steps without those that stay
    exact ⟨noNul, left, by rw [← filter_steps]; exact enters.filter_stay⟩
  · exact absurd directory outside

theorem Leads.locate (leads : tree.Leads path place) (nonempty : path ≠ "") :
    tree.locate true path = .ok place := by
  obtain ⟨noNul, left, enters⟩ := leads
  rw [← filter_steps] at enters
  rw [locate_eq tree true nonempty noNul, enters.of_filter_stay.walk_true]

/-- The walk to a name goes on from the directory before the name. -/
theorem Enters.locate_append {left : Nat} (enters : Enters tree maxLinks (tree.start front)
    ((Path.parts front).map partStep) left place) (noNul : '\x00' ∉ front.toList)
    (ends : Path.EndsOpen front) (named : Path.IsName name) (follow : Bool) :
    tree.locate follow (front ++ name) =
      tree.walk follow left place [.into (EntryName.ofText name)] := by
  have nonempty : front ++ name ≠ "" := by simp [named.nonempty]
  have clear : '\x00' ∉ (front ++ name).toList := by simp [noNul, named.noNul]
  have sameStart : tree.start (front ++ name) = tree.start front := by
    rw [start, start, Path.isAbsolute_append ends named.noSlash]
  obtain ⟨before, split, isFront⟩ := steps_append ends named
  rw [← isFront] at enters
  rw [locate_eq tree follow nonempty clear, sameStart, split,
    enters.of_filter_stay.walk_append follow (by simp)]

theorem Leads.walk_append (leads : tree.Leads front place) (ends : Path.EndsOpen front)
    (named : Path.IsName name) : ∃ left, ∀ follow, tree.locate follow (front ++ name) =
      tree.walk follow left place [.into (EntryName.ofText name)] := by
  obtain ⟨noNul, left, enters⟩ := leads
  exact ⟨left, enters.locate_append noNul ends named⟩

/-- The way to a name leads through its directory. -/
theorem Leads.of_locate_append {follow : Bool} {location : TreeLocation}
    (ends : Path.EndsOpen front) (named : Path.IsName name)
    (located : tree.locate follow (front ++ name) = .ok location) :
    ∃ place, tree.Leads front place := by
  obtain ⟨nonempty, noNul⟩ := locate_ok located
  have clear : '\x00' ∉ front.toList := by
    simp only [String.toList_append, List.mem_append, not_or] at noNul
    exact noNul.1
  obtain ⟨before, split, isFront⟩ := steps_append ends named
  rw [locate_eq tree follow nonempty noNul, split, start,
    Path.isAbsolute_append ends named.noSlash] at located
  obtain ⟨left, above, enters⟩ := enters_of_walk_append (by simp) located
  exact ⟨above, clear, left, by rw [← isFront]; exact enters.filter_stay⟩

theorem Leads.unique {other : TreeLocation} (leads : tree.Leads path place)
    (leads' : tree.Leads path other) : place = other := by
  obtain ⟨-, left, enters⟩ := leads
  obtain ⟨-, left', enters'⟩ := leads'
  exact Except.ok.inj (enters.walk_true.symm.trans enters'.walk_true)

/-- The location of a name in the directory that a path leads into. A link that stands there may
not be followed. -/
theorem Leads.locate_append (leads : tree.Leads front place) (ends : Path.EndsOpen front)
    (named : Path.IsName name) {follow : Bool}
    (plain : follow = true →
      ∀ target, tree.at? (place ++ [EntryName.ofText name]) ≠ some (.link target)) :
    tree.locate follow (front ++ name) =
      if EntryName.maxLength < name.utf8ByteSize then .error (.other "file name too long")
      else .ok (place ++ [EntryName.ofText name]) := by
  obtain ⟨left, walked⟩ := leads.walk_append ends named
  rw [walked, walk, EntryName.length_ofText]
  split
  · rfl
  · split
    next nothing => rfl
    next directory => rw [walk]
    next file => rfl
    next target link =>
      cases follow with
      | false => rfl
      | true => exact absurd link (plain rfl target)

theorem Leads.locate_plain (leads : tree.Leads front place) (ends : Path.EndsOpen front)
    (named : Path.IsName name) (short : name.utf8ByteSize ≤ EntryName.maxLength)
    (plain : ∀ target, tree.at? (place ++ [EntryName.ofText name]) ≠ some (.link target))
    (follow : Bool) :
    tree.locate follow (front ++ name) = .ok (place ++ [EntryName.ofText name]) := by
  rw [leads.locate_append ends named fun _ => plain, if_neg (by omega)]

/-- Where a directory at the top is. -/
theorem locate_top (tree : FileTree) (name : String) (named : Path.IsName name)
    (short : name.utf8ByteSize ≤ EntryName.maxLength)
    (standing : tree.at? [EntryName.ofText name] = some .directory) :
    tree.locate true ("/" ++ name) = .ok [EntryName.ofText name] :=
  tree.leads_slash.locate_plain (Or.inr (by decide)) named short (by simp [standing]) true

theorem Leads.locate_last (leads : tree.Leads front place) (ends : Path.EndsOpen front)
    (named : Path.IsName name) (short : name.utf8ByteSize ≤ EntryName.maxLength) :
    tree.locate false (front ++ name) = .ok (place ++ [EntryName.ofText name]) := by
  rw [leads.locate_append ends named (by simp), if_neg (by omega)]

/-- A slash behind a path leads to the same place. -/
theorem Leads.append_slash (leads : tree.Leads path place) (nonempty : path ≠ "") :
    tree.Leads (path ++ "/") place := by
  obtain ⟨noNul, left, enters⟩ := leads
  have sameStart : tree.start (path ++ "/") = tree.start path := by
    have some : path.toList ≠ [] := by simpa using nonempty
    obtain ⟨c, rest, split⟩ := List.exists_cons_of_ne_nil some
    simp [start, Path.isAbsolute, split]
  refine ⟨by simp [noNul], left, ?_⟩
  rwa [sameStart, Path.parts_append_slash]

/-- The location of a name that is joined to the path of a directory. -/
theorem Leads.locate_join (leads : tree.Leads path place) (nonempty : path ≠ "")
    (named : Path.IsName name) {follow : Bool}
    (plain : follow = true →
      ∀ target, tree.at? (place ++ [EntryName.ofText name]) ≠ some (.link target)) :
    tree.locate follow (Path.join path name) =
      if EntryName.maxLength < name.utf8ByteSize then .error (.other "file name too long")
      else .ok (place ++ [EntryName.ofText name]) := by
  obtain ⟨front, joined, ends, rfl | rfl⟩ := Path.join_eq nonempty named.noSlash
  · rw [joined, leads.locate_append ends named plain]
  · rw [joined, (leads.append_slash nonempty).locate_append ends named plain]

theorem Leads.of_links {other : FileTree} (leads : tree.Leads path place)
    (sameStart : other.workingDirectory = tree.workingDirectory)
    (directories : ∀ location, tree.at? location = some .directory →
      other.at? location = some .directory)
    (linked : ∀ location target, tree.at? location = some (.link target) →
      tree.IsPassable location target →
      other.at? location = some (.link target) ∨ ¬ other.IsPassable location target) :
    other.Leads path place := by
  obtain ⟨noNul, left, enters⟩ := leads
  have enters := enters.of_links directories linked
  exact ⟨noNul, left, by rwa [start, sameStart]⟩

/-- Nothing stands here, or a file. -/
def IsFree (tree : FileTree) (location : TreeLocation) : Prop :=
  tree.at? location = none ∨ ∃ content, tree.at? location = some (.file content)

theorem IsFree.ne_nil {location : TreeLocation} (free : tree.IsFree location) : location ≠ [] := by
  rintro rfl
  simp [IsFree] at free

theorem IsFree.noDirectory {location : TreeLocation} (free : tree.IsFree location) :
    tree.at? location ≠ some .directory := by
  rcases free with none | ⟨content, file⟩
  · simp [none]
  · simp [file]

theorem IsFree.noLink {location : TreeLocation} (free : tree.IsFree location) (target : String) :
    tree.at? location ≠ some (.link target) := by
  rcases free with none | ⟨content, file⟩
  · simp [none]
  · simp [file]

/-- What is put where no directory and no link stands takes the place of none. -/
theorem IsFree.at?_put {location other : TreeLocation} (free : tree.IsFree location) (node : Node)
    (kept : ¬ tree.IsFree other) : (tree.put location node).at? other = tree.at? other := by
  rw [FileTree.at?_put _ free.ne_nil, if_neg]
  rintro rfl
  exact kept free

theorem IsFree.at?_erase {location other : TreeLocation} (free : tree.IsFree location)
    (kept : ¬ tree.IsFree other) : (tree.erase location).at? other = tree.at? other := by
  rw [FileTree.at?_erase _ free.ne_nil, if_neg]
  rintro rfl
  exact kept free

theorem IsFree.erase {location other : TreeLocation} (free : tree.IsFree other)
    (below : location ≠ []) : (tree.erase location).IsFree other := by
  rw [IsFree, FileTree.at?_erase _ below]
  split
  · exact Or.inl rfl
  · exact free

theorem Enters.put {links left : Nat} {here location : TreeLocation} {steps : List Step}
    (enters : Enters tree links here steps left place) (free : tree.IsFree location) (node : Node) :
    Enters (tree.put location node) links here steps left place :=
  enters.mono (fun _ standing => (free.at?_put node (by simp [IsFree, standing])).trans standing)
    fun _ _ standing _ => (free.at?_put node (by simp [IsFree, standing])).trans standing

theorem Leads.put (leads : tree.Leads path place) {location : TreeLocation}
    (free : tree.IsFree location) (node : Node) : (tree.put location node).Leads path place := by
  obtain ⟨noNul, left, enters⟩ := leads
  exact ⟨noNul, left, by rw [start, put_workingDirectory]; exact enters.put free node⟩

theorem Leads.erase (leads : tree.Leads path place) {location : TreeLocation}
    (free : tree.IsFree location) : (tree.erase location).Leads path place :=
  leads.of_links rfl
    (fun _ standing => (free.at?_erase (by simp [IsFree, standing])).trans standing)
    fun _ _ standing _ => Or.inl ((free.at?_erase (by simp [IsFree, standing])).trans standing)

/-! ### Operations on a path that leads somewhere -/

section Operations

variable {location : TreeLocation}

theorem inspect_of_locate (located : tree.locate true path = .ok location) :
    tree.inspect path = match tree.at? location with
      | some (.file content) => .ok (.file content.size)
      | some .directory => .ok .directory
      | some (.link _) | none => .error .notFound := by
  rw [inspect, located]
  rfl

theorem list_of_locate (located : tree.locate true path = .ok location)
    (directory : tree.at? location = some .directory) :
    tree.list path = .ok ((tree.children location).map fun entry =>
      { name := entry.1.text?
        size := match entry.2 with
          | .file content => some content.size
          | _ => none }) := by
  rw [list, located]
  dsimp only [bind, Except.bind]
  rw [directory]
  rfl

theorem read_of_locate (located : tree.locate true path = .ok location) :
    tree.read path = match tree.at? location with
      | some (.file content) => .ok content
      | some .directory => .error (.other "is a directory")
      | some (.link _) | none => .error .notFound := by
  rw [read, located]
  rfl

theorem read_of_locate_error {e : DiskError} (lost : tree.locate true path = .error e) :
    tree.read path = .error e := by
  rw [read, lost]
  rfl

/-- What leads to a file or to nothing can be read, or is not found. -/
theorem read_of_isFree (located : tree.locate true path = .ok location)
    (free : tree.IsFree location) :
    (∃ content, tree.read path = .ok content) ∨ tree.read path = .error .notFound := by
  rw [read_of_locate located]
  rcases free with nothing | ⟨content, file⟩
  · exact Or.inr (by rw [nothing])
  · exact Or.inl ⟨content, by rw [file]⟩

theorem write_of_locate (located : tree.locate true path = .ok location) (content : ByteArray) :
    tree.write path content = match tree.at? location with
      | some .directory => .error (.other "is a directory")
      | _ => .ok (tree.put location (.file content)) := by
  rw [write, located]
  rfl

theorem write_of_isFree (located : tree.locate true path = .ok location)
    (free : tree.IsFree location) (content : ByteArray) :
    tree.write path content = .ok (tree.put location (.file content)) := by
  rw [write_of_locate located]
  rcases free with none | ⟨old, file⟩
  · rw [none]
  · rw [file]

theorem create_of_locate (located : tree.locate false path = .ok location) (content : ByteArray) :
    tree.create path content = match tree.at? location with
      | some _ => .error .alreadyExists
      | none => .ok (tree.put location (.file content)) := by
  rw [create, located]
  rfl

theorem remove_of_locate (located : tree.locate false path = .ok location) :
    tree.remove path = match tree.at? location with
      | some .directory => .error (.other "is a directory")
      | some _ => .ok (tree.erase location)
      | none => .error .notFound := by
  rw [remove, located]
  rfl

theorem rename_of_locate {source target : String} {goal : TreeLocation}
    (located : tree.locate false source = .ok location)
    (aimed : tree.locate false target = .ok goal) {node : Node}
    (standing : tree.at? location = some node) (noDirectory : node ≠ .directory) :
    tree.rename source target = match tree.at? goal with
      | some .directory => .error (.other "is a directory")
      | _ => .ok ((tree.erase location).put goal node) := by
  rw [rename, located]
  dsimp only [bind, Except.bind]
  rw [aimed]
  dsimp only
  rw [standing]
  cases node with
  | directory => exact absurd rfl noDirectory
  | file content => rfl
  | link target => rfl

theorem makeDirectory_of_locate (located : tree.locate false path = .ok location) :
    tree.makeDirectory path = match tree.at? location with
      | some _ => .error .alreadyExists
      | none => .ok (tree.put location .directory) := by
  rw [makeDirectory, located]
  rfl

/-- A file that was written stands where its path leads. -/
theorem eq_put_of_write {content : ByteArray} {changed : FileTree}
    (written : tree.write path content = .ok changed) :
    ∃ location, tree.locate true path = .ok location ∧ tree.at? location ≠ some .directory ∧
      changed = tree.put location (.file content) := by
  cases located : tree.locate true path with
  | error e =>
    rw [write, located] at written
    cases written
  | ok location =>
    rw [write_of_locate located] at written
    split at written
    · cases written
    next noDirectory => exact ⟨location, rfl, noDirectory, (Except.ok.inj written).symm⟩

theorem eq_put_of_create {content : ByteArray} {changed : FileTree}
    (created : tree.create path content = .ok changed) :
    ∃ location, tree.locate false path = .ok location ∧ tree.at? location = none ∧
      changed = tree.put location (.file content) := by
  cases located : tree.locate false path with
  | error e =>
    rw [create, located] at created
    cases created
  | ok location =>
    rw [create_of_locate located] at created
    split at created
    · cases created
    next nothing => exact ⟨location, rfl, nothing, (Except.ok.inj created).symm⟩

theorem eq_erase_of_remove {changed : FileTree} (removed : tree.remove path = .ok changed) :
    ∃ location, tree.locate false path = .ok location ∧ tree.at? location ≠ some .directory ∧
      changed = tree.erase location := by
  cases located : tree.locate false path with
  | error e =>
    rw [remove, located] at removed
    cases removed
  | ok location =>
    rw [remove_of_locate located] at removed
    split at removed
    · cases removed
    next noDirectory _ =>
      refine ⟨location, rfl, fun directory => ?_, (Except.ok.inj removed).symm⟩
      exact noDirectory (Option.some.inj ((‹tree.at? location = some _›).symm.trans directory))
    · cases removed

theorem eq_put_of_makeDirectory {changed : FileTree}
    (made : tree.makeDirectory path = .ok changed) :
    ∃ location, tree.locate false path = .ok location ∧ tree.at? location = none ∧
      changed = tree.put location .directory := by
  cases located : tree.locate false path with
  | error e =>
    rw [makeDirectory, located] at made
    cases made
  | ok location =>
    rw [makeDirectory_of_locate located] at made
    split at made
    · cases made
    next nothing => exact ⟨location, rfl, nothing, (Except.ok.inj made).symm⟩

end Operations

theorem inspect_directory_iff : tree.inspect path = .ok .directory ↔
    path ≠ "" ∧ ∃ place, tree.Leads path place ∧ tree.at? place = some .directory := by
  constructor
  · intro inspected
    cases located : tree.locate true path with
    | error e =>
      rw [inspect, located] at inspected
      cases inspected
    | ok place =>
      rw [inspect_of_locate located] at inspected
      split at inspected
      · cases inspected
      next directory =>
        exact ⟨(locate_ok located).1, place, .of_locate located directory, directory⟩
      · cases inspected
      · cases inspected
  · rintro ⟨nonempty, place, leads, directory⟩
    rw [inspect_of_locate (leads.locate nonempty), directory]

/-! ### The tree as a part of a world -/

section Worlds

variable {W : Type} (part : Part W FileTree) (w : W)

theorem outcome_look {α : Type} (view : FileTree → Except DiskError α) :
    outcome (ExceptT.mk (part.run (look view).run)) w = (view (part.get w), w) :=
  congrArg (Prod.mk (view (part.get w))) (part.set_get w)

theorem outcome_change (act : FileTree → Except DiskError FileTree) :
    outcome (ExceptT.mk (part.run (change act).run)) w =
      match act (part.get w) with
      | .ok changed => (.ok (), part.set changed w)
      | .error e => (.error e, w) := by
  simp only [outcome, ExceptT.run, ExceptT.mk, StateT.run, Part.run, change]
  cases act (part.get w) with
  | ok changed => rfl
  | error e => exact congrArg (Prod.mk _) (part.set_get w)

end Worlds

end FileTree

end CameraRoll
