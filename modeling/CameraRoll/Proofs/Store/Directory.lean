import CameraRoll.Proofs.Disk.Walk
import CameraRoll.Proofs.Store.Requests
import CameraRoll.Store.Directory

/-!
A store in a directory of a tree of files. Main statements: the equations for its calls on names
that fit into the directory, `outcome_list` to `outcome_stat`, and `request_cases`, by which no
request does more to the tree than putting or erasing one file in the directory.
-/

namespace CameraRoll

theorem isName_of_isValidName {name : String} (valid : isValidName name = true) :
    Path.IsName name := by
  simp only [isValidName, Bool.and_eq_true, bne_iff_ne, Bool.not_eq_true', List.any_eq_false,
    isSeparator, Bool.or_eq_true, beq_iff_eq, not_or] at valid
  obtain ⟨⟨⟨nonempty, noDot⟩, noUp⟩, clear⟩ := valid
  exact {
    nonempty := nonempty
    noDot := noDot
    noUp := noUp
    noSlash := fun slash => (clear _ slash).1.1 rfl
    noNul := fun nul => (clear _ nul).2 rfl }

namespace FileTree

/-- A directory as a place for a store: its path leads there, and nothing in it is a link. -/
structure Houses (tree : FileTree) (root : String) (place : TreeLocation) : Prop where
  located : tree.locate true root = .ok place
  directory : tree.at? place = some .directory
  linkless : ∀ entry target, tree.at? (place ++ [entry]) ≠ some (.link target)
  distinct : tree.Distinct

namespace Houses

variable {tree : FileTree} {root name : String} {place : TreeLocation} {entry : EntryName}

theorem nonempty (houses : tree.Houses root place) : root ≠ "" := (locate_ok houses.located).1

theorem leads (houses : tree.Houses root place) : tree.Leads root place :=
  .of_locate houses.located houses.directory

theorem locate_join (houses : tree.Houses root place) (valid : isValidName name = true)
    (follow : Bool) : tree.locate follow (Path.join root name) =
      if EntryName.maxLength < name.utf8ByteSize then .error (.other "file name too long")
      else .ok (place ++ [EntryName.ofText name]) :=
  houses.leads.locate_join houses.nonempty (isName_of_isValidName valid) fun _ =>
    houses.linkless (EntryName.ofText name)

theorem isFree (houses : tree.Houses root place)
    (noDirectory : tree.at? (place ++ [entry]) ≠ some .directory) :
    tree.IsFree (place ++ [entry]) := by
  cases standing : tree.at? (place ++ [entry]) with
  | none => exact Or.inl standing
  | some node =>
    cases node with
    | file content => exact Or.inr ⟨content, standing⟩
    | directory => exact absurd standing noDirectory
    | link target => exact absurd standing (houses.linkless entry target)

theorem put (houses : tree.Houses root place)
    (noDirectory : tree.at? (place ++ [entry]) ≠ some .directory) (content : ByteArray) :
    (tree.put (place ++ [entry]) (.file content)).Houses root place where
  located := (houses.leads.put (houses.isFree noDirectory) _).locate houses.nonempty
  directory := by rw [at?_put _ (by simp), if_neg (by simp), houses.directory]
  linkless other target := by
    rw [at?_put _ (by simp)]
    split
    · simp
    · exact houses.linkless other target
  distinct := houses.distinct.put _ _

theorem erase (houses : tree.Houses root place)
    (noDirectory : tree.at? (place ++ [entry]) ≠ some .directory) :
    (tree.erase (place ++ [entry])).Houses root place where
  located := (houses.leads.erase (houses.isFree noDirectory)).locate houses.nonempty
  directory := by rw [at?_erase _ (by simp), if_neg (by simp), houses.directory]
  linkless other target := by
    rw [at?_erase _ (by simp)]
    split
    · simp
    · exact houses.linkless other target
  distinct := houses.distinct.erase _

end Houses

end FileTree

namespace DirectoryStore

open Store

variable {W : Type} {root name : String} {place : TreeLocation} {part : Part W FileTree} {w : W}

theorem outcome_onFile_of_invalid {α : Type} (invalid : isValidName name = false)
    (act : String → ExceptT DiskError (StateM W) α) :
    outcome (onFile root name act) w = (.error (.invalidName name), w) := by
  rw [onFile, invalid]
  rfl

theorem outcome_onFile {α : Type} (valid : isValidName name = true)
    (act : String → ExceptT DiskError (StateM W) α) :
    outcome (onFile root name act) w =
      ((outcome (act (Path.join root name)) w).1.mapError (errorOf name),
        (outcome (act (Path.join root name)) w).2) := by
  rw [onFile, if_pos valid]
  rfl

/-! ### The files of a directory -/

/-- The name and content of an entry that is a file and has a text for its name. -/
def fileOf? : EntryName × Node → Option (String × ByteArray)
  | (entry, .file content) => entry.text?.map fun name => (name, content)
  | _ => none

def filesIn (tree : FileTree) (place : TreeLocation) : List (String × ByteArray) :=
  (tree.children place).filterMap fileOf?

theorem fileOf?_eq_some {entry : EntryName × Node} {file : String × ByteArray} :
    fileOf? entry = some file ↔ entry = (EntryName.ofText file.1, .file file.2) := by
  obtain ⟨bytes, node⟩ := entry
  obtain ⟨name, content⟩ := file
  cases node with
  | file held =>
    simp only [fileOf?, Option.map_eq_some_iff, Prod.mk.injEq, Node.file.injEq]
    constructor
    · rintro ⟨_, read, rfl, rfl⟩
      exact ⟨EntryName.eq_ofText_of_text? read, rfl⟩
    · rintro ⟨rfl, rfl⟩
      exact ⟨name, EntryName.text?_ofText name, rfl, rfl⟩
  | directory => simp [fileOf?]
  | link target => simp [fileOf?]

theorem nodup_filesIn {tree : FileTree} (distinct : tree.Distinct) (place : TreeLocation) :
    ((filesIn tree place).map (·.1)).Nodup := by
  rw [List.Nodup, List.pairwise_map, filesIn, List.pairwise_filterMap]
  refine (List.pairwise_map.mp (FileTree.nodup_children distinct place)).imp ?_
  rintro entry entry' apart file isFile file' isFile' same
  rw [fileOf?_eq_some] at isFile isFile'
  exact apart (by rw [isFile, isFile', same])

theorem mem_filesIn {tree : FileTree} (distinct : tree.Distinct) {place : TreeLocation}
    {name : String} {content : ByteArray} : (name, content) ∈ filesIn tree place ↔
      tree.at? (place ++ [EntryName.ofText name]) = some (.file content) := by
  rw [filesIn, List.mem_filterMap, ← FileTree.mem_children distinct]
  simp [fileOf?_eq_some]

theorem lookup_filesIn {tree : FileTree} (distinct : tree.Distinct) (place : TreeLocation)
    (name : String) : (filesIn tree place).lookup name =
      match tree.at? (place ++ [EntryName.ofText name]) with
      | some (.file content) => some content
      | _ => none := by
  cases found : (filesIn tree place).lookup name with
  | some content => rw [(mem_filesIn distinct).mp (mem_of_lookup found)]
  | none =>
    split
    next content standing =>
      have present := lookup_of_mem (nodup_filesIn distinct place)
        ((mem_filesIn distinct).mpr standing)
      exact found.symm.trans present
    · rfl

theorem perm_filesIn_put {tree : FileTree} (distinct : tree.Distinct) (place : TreeLocation)
    (name : String) (content : ByteArray) :
    (filesIn (tree.put (place ++ [EntryName.ofText name]) (.file content)) place).Perm
      ((name, content) :: (filesIn tree place).filter fun file => file.1 ≠ name) := by
  refine perm_of_lookup (nodup_filesIn (distinct.put _ _) place) ?_ fun other => ?_
  · rw [List.map_cons, List.nodup_cons]
    exact ⟨by simp, (nodup_filesIn distinct place).sublist (List.filter_sublist.map _)⟩
  · rw [lookup_filesIn (distinct.put _ _), FileTree.at?_put _ (by simp), lookup_cons_ite,
      lookup_filter, lookup_filesIn distinct]
    by_cases same : other = name <;> simp [same, EntryName.ofText_injective.eq_iff]

theorem perm_filesIn_erase {tree : FileTree} (distinct : tree.Distinct) (place : TreeLocation)
    (name : String) :
    (filesIn (tree.erase (place ++ [EntryName.ofText name])) place).Perm
      ((filesIn tree place).filter fun file => file.1 ≠ name) := by
  refine perm_of_lookup (nodup_filesIn (distinct.erase _) place) ?_ fun other => ?_
  · exact (nodup_filesIn distinct place).sublist (List.filter_sublist.map _)
  · rw [lookup_filesIn (distinct.erase _), FileTree.at?_erase _ (by simp),
      lookup_filter, lookup_filesIn distinct]
    by_cases same : other = name <;> simp [same, EntryName.ofText_injective.eq_iff]

/-! ### The calls -/

section At

variable {location : TreeLocation}

/-- A directory is listed, whatever stands in it. -/
theorem outcome_list_at (located : (part.get w).locate true root = .ok place)
    (directory : (part.get w).at? place = some .directory) (label : String) :
    outcome (operations (FileTree.disk part) label root).list w =
      (.ok ((filesIn (part.get w) place).map fun file => ⟨file.1, file.2.size⟩), w) := by
  simp only [operations, list]
  rw [outcome_bind, outcome_liftM, run_run]
  simp only [FileTree.disk, FileTree.outcome_look,
    FileTree.list_of_locate located directory]
  rw [outcome_pure, filesAmong, filesIn, List.filterMap_map, List.map_filterMap]
  congr 2
  refine List.filterMap_congr fun entry _ => ?_
  obtain ⟨bytes, node⟩ := entry
  cases node with
  | file content =>
    simp only [Function.comp_apply, fileOf?]
    cases bytes.text? <;> rfl
  | directory => cases text : bytes.text? <;> simp [fileOf?, text]
  | link target => cases text : bytes.text? <;> simp [fileOf?, text]

variable (valid : isValidName name = true)
include valid

theorem outcome_read_at
    (located : (part.get w).locate true (Path.join root name) = .ok location) (label : String) :
    outcome ((operations (FileTree.disk part) label root).read name) w =
      (match (part.get w).at? location with
        | some (.file content) => .ok content
        | some .directory => .error (.io "is a directory")
        | _ => .error (.notFound name), w) := by
  simp only [operations]
  rw [outcome_onFile valid]
  simp only [FileTree.disk, FileTree.outcome_look, FileTree.read_of_locate located]
  cases (part.get w).at? location with
  | none => rfl
  | some node => cases node <;> rfl

theorem outcome_write_at
    (located : (part.get w).locate true (Path.join root name) = .ok location) (label : String)
    (content : ByteArray) :
    outcome ((operations (FileTree.disk part) label root).write name content) w =
      match (part.get w).at? location with
      | some .directory => (.error (.io "is a directory"), w)
      | _ => (.ok (), part.set ((part.get w).put location (.file content)) w) := by
  simp only [operations]
  rw [outcome_onFile valid]
  simp only [FileTree.disk, FileTree.outcome_change, FileTree.write_of_locate located]
  cases (part.get w).at? location with
  | none => rfl
  | some node => cases node <;> rfl

theorem outcome_create_at
    (located : (part.get w).locate false (Path.join root name) = .ok location) (label : String)
    (content : ByteArray) :
    outcome ((operations (FileTree.disk part) label root).create name content) w =
      match (part.get w).at? location with
      | some _ => (.error (.alreadyExists name), w)
      | none => (.ok ⟨name, content.size⟩, part.set ((part.get w).put location (.file content)) w) := by
  simp only [operations]
  rw [outcome_bind, outcome_onFile valid]
  simp only [FileTree.disk, FileTree.outcome_change, FileTree.create_of_locate located]
  cases (part.get w).at? location with
  | none => rfl
  | some node => rfl

theorem outcome_delete_at
    (located : (part.get w).locate false (Path.join root name) = .ok location) (label : String) :
    outcome ((operations (FileTree.disk part) label root).delete name) w =
      match (part.get w).at? location with
      | some .directory => (.error (.io "is a directory"), w)
      | some _ => (.ok (), part.set ((part.get w).erase location) w)
      | none => (.error (.notFound name), w) := by
  simp only [operations]
  rw [outcome_onFile valid]
  simp only [FileTree.disk, FileTree.outcome_change, FileTree.remove_of_locate located]
  cases (part.get w).at? location with
  | none => rfl
  | some node => cases node <;> rfl

theorem outcome_stat_at
    (located : (part.get w).locate true (Path.join root name) = .ok location) (label : String) :
    outcome ((operations (FileTree.disk part) label root).stat name) w =
      (match (part.get w).at? location with
        | some (.file content) => .ok ⟨name, content.size⟩
        | _ => .error (.notFound name), w) := by
  simp only [operations, stat]
  rw [outcome_bind, outcome_onFile valid]
  simp only [FileTree.disk, FileTree.outcome_look, FileTree.inspect_of_locate located]
  cases (part.get w).at? location with
  | none => rfl
  | some node => cases node <;> rfl

end At

section Lost

-- a name that leads nowhere is refused by the disk, and nothing else has happened
variable {reason : String} (valid : isValidName name = true) (label : String)
include valid

theorem outcome_contains_lost
    (lost : (part.get w).locate true (Path.join root name) = .error (.other reason)) :
    outcome ((operations (FileTree.disk part) label root).contains name) w =
      (.error (.io reason), w) := by
  simp only [operations, contains]
  rw [if_pos valid, outcome_bind, outcome_liftM, run_run]
  simp only [FileTree.disk, FileTree.outcome_look, FileTree.inspect, lost]
  rfl

theorem outcome_read_lost
    (lost : (part.get w).locate true (Path.join root name) = .error (.other reason)) :
    outcome ((operations (FileTree.disk part) label root).read name) w =
      (.error (.io reason), w) := by
  simp only [operations]
  rw [outcome_onFile valid]
  simp only [FileTree.disk, FileTree.outcome_look, FileTree.read, lost]
  rfl

theorem outcome_write_lost
    (lost : (part.get w).locate true (Path.join root name) = .error (.other reason))
    (content : ByteArray) :
    outcome ((operations (FileTree.disk part) label root).write name content) w =
      (.error (.io reason), w) := by
  simp only [operations]
  rw [outcome_onFile valid]
  simp only [FileTree.disk, FileTree.outcome_change, FileTree.write, lost]
  rfl

theorem outcome_create_lost
    (lost : (part.get w).locate false (Path.join root name) = .error (.other reason))
    (content : ByteArray) :
    outcome ((operations (FileTree.disk part) label root).create name content) w =
      (.error (.io reason), w) := by
  simp only [operations]
  rw [outcome_bind, outcome_onFile valid]
  simp only [FileTree.disk, FileTree.outcome_change, FileTree.create, lost]
  rfl

theorem outcome_delete_lost
    (lost : (part.get w).locate false (Path.join root name) = .error (.other reason)) :
    outcome ((operations (FileTree.disk part) label root).delete name) w =
      (.error (.io reason), w) := by
  simp only [operations]
  rw [outcome_onFile valid]
  simp only [FileTree.disk, FileTree.outcome_change, FileTree.remove, lost]
  rfl

theorem outcome_stat_lost
    (lost : (part.get w).locate true (Path.join root name) = .error (.other reason)) :
    outcome ((operations (FileTree.disk part) label root).stat name) w =
      (.error (.io reason), w) := by
  simp only [operations, stat]
  rw [outcome_bind, outcome_onFile valid]
  simp only [FileTree.disk, FileTree.outcome_look, FileTree.inspect, lost]
  rfl

end Lost

section Calls

variable (houses : (part.get w).Houses root place) (valid : isValidName name = true)
  (short : name.utf8ByteSize ≤ EntryName.maxLength) (label : String)

include houses

theorem outcome_list :
    outcome (operations (FileTree.disk part) label root).list w =
      (.ok ((filesIn (part.get w) place).map fun file => ⟨file.1, file.2.size⟩), w) :=
  outcome_list_at houses.located houses.directory label

include valid short

/-- A name that fits is that of an entry. -/
theorem locate_short (follow : Bool) : (part.get w).locate follow (Path.join root name) =
    .ok (place ++ [EntryName.ofText name]) := by
  rw [houses.locate_join valid, if_neg (by omega)]

theorem outcome_contains :
    outcome ((operations (FileTree.disk part) label root).contains name) w =
      (.ok ((part.get w).at? (place ++ [EntryName.ofText name])).isSome, w) := by
  have located := locate_short houses valid short true
  simp only [operations, contains]
  rw [if_pos valid, outcome_bind, outcome_liftM, run_run]
  simp only [FileTree.disk, FileTree.outcome_look, FileTree.inspect_of_locate located]
  cases standing : (part.get w).at? (place ++ [EntryName.ofText name]) with
  | none => rfl
  | some node =>
    cases node with
    | file content => rfl
    | directory => rfl
    | link target => exact absurd standing (houses.linkless _ target)

theorem outcome_read :
    outcome ((operations (FileTree.disk part) label root).read name) w =
      (match (part.get w).at? (place ++ [EntryName.ofText name]) with
        | some (.file content) => .ok content
        | some .directory => .error (.io "is a directory")
        | _ => .error (.notFound name), w) :=
  outcome_read_at valid (locate_short houses valid short true) label

theorem outcome_write (content : ByteArray) :
    outcome ((operations (FileTree.disk part) label root).write name content) w =
      match (part.get w).at? (place ++ [EntryName.ofText name]) with
      | some .directory => (.error (.io "is a directory"), w)
      | _ => (.ok (), part.set ((part.get w).put (place ++ [EntryName.ofText name])
          (.file content)) w) :=
  outcome_write_at valid (locate_short houses valid short true) label content

theorem outcome_create (content : ByteArray) :
    outcome ((operations (FileTree.disk part) label root).create name content) w =
      match (part.get w).at? (place ++ [EntryName.ofText name]) with
      | some _ => (.error (.alreadyExists name), w)
      | none => (.ok ⟨name, content.size⟩, part.set ((part.get w).put
          (place ++ [EntryName.ofText name]) (.file content)) w) :=
  outcome_create_at valid (locate_short houses valid short false) label content

theorem outcome_delete :
    outcome ((operations (FileTree.disk part) label root).delete name) w =
      match (part.get w).at? (place ++ [EntryName.ofText name]) with
      | some .directory => (.error (.io "is a directory"), w)
      | some _ => (.ok (), part.set ((part.get w).erase (place ++ [EntryName.ofText name])) w)
      | none => (.error (.notFound name), w) :=
  outcome_delete_at valid (locate_short houses valid short false) label

theorem outcome_stat :
    outcome ((operations (FileTree.disk part) label root).stat name) w =
      (match (part.get w).at? (place ++ [EntryName.ofText name]) with
        | some (.file content) => .ok ⟨name, content.size⟩
        | _ => .error (.notFound name), w) :=
  outcome_stat_at valid (locate_short houses valid short true) label

end Calls

theorem run_isPresent (path : String) (w : W) :
    ((FileTree.disk part).isPresent path).run w =
      (match (part.get w).inspect path with
        | .ok _ => true
        | .error _ => false, w) := by
  simp only [Disk.isPresent, StateT.run_bind, run_run, FileTree.disk, FileTree.outcome_look]
  cases (part.get w).inspect path with
  | ok standing => rfl
  | error e => rfl

theorem run_isDirectory (path : String) (w : W) :
    ((FileTree.disk part).isDirectory path).run w = ((part.get w).isDirectory path, w) := by
  simp only [Disk.isDirectory, StateT.run_bind, run_run, FileTree.disk, FileTree.outcome_look,
    FileTree.isDirectory]
  cases (part.get w).inspect path with
  | ok standing => cases standing <;> rfl
  | error e => rfl

/-- The store in a directory that exists. -/
theorem outcome_make_of_isDirectory (directory : (part.get w).isDirectory root = true)
    (absolute : Path.isAbsolute root = true) (label : String) :
    outcome (make (FileTree.disk part) label root) w =
      (.ok (operations (FileTree.disk part) label root), w) := by
  have inspected : (part.get w).inspect root = .ok .directory := by
    unfold FileTree.isDirectory at directory
    split at directory
    next inspected => exact inspected
    next => cases directory
  rw [make, absolute]
  simp only [Bool.not_true, Bool.false_eq_true, if_false]
  rw [outcome_bind, outcome_liftM, run_isPresent, inspected]
  dsimp only
  rw [if_pos rfl, outcome_bind, outcome_liftM, run_isDirectory, directory]
  rfl

theorem outcome_make (houses : (part.get w).Houses root place)
    (absolute : Path.isAbsolute root = true) (label : String) :
    outcome (make (FileTree.disk part) label root) w =
      (.ok (operations (FileTree.disk part) label root), w) := by
  refine outcome_make_of_isDirectory ?_ absolute label
  rw [FileTree.isDirectory, FileTree.inspect_of_locate houses.located, houses.directory]

/-- A directory that is there is opened, and nothing is made. -/
theorem outcome_openExisting (absolute : Path.isAbsolute root = true) (label : String) (w : W) :
    outcome (openExisting (FileTree.disk part) label root) w =
      (.ok (if (part.get w).isDirectory root then
        some (operations (FileTree.disk part) label root) else none), w) := by
  rw [openExisting, outcome_bind, outcome_liftM, run_isDirectory]
  cases directory : (part.get w).isDirectory root with
  | false => rfl
  | true =>
    dsimp only
    rw [if_pos rfl, if_pos rfl, outcome_bind_ok (outcome_make_of_isDirectory directory absolute _)]
    rfl

/-! ### What requests do -/

/-- A call that only looks leaves the world as it is. -/
theorem onFile_look {α : Type} {act : String → ExceptT DiskError (StateM W) α}
    (looks : ∀ path w, (outcome (act path) w).2 = w) (root name : String) (w : W) :
    (outcome (onFile root name act) w).2 = w := by
  cases valid : isValidName name with
  | false => rw [outcome_onFile_of_invalid valid]
  | true =>
    rw [outcome_onFile valid]
    exact looks _ w

/-- A call that changes the tree does so at the path of its name, or leaves the tree as it is. -/
theorem onFile_change (part : Part W FileTree)
    (act : FileTree → String → Except DiskError FileTree)
    (root name : String) (w : W) :
    (outcome (onFile root name fun path =>
      ExceptT.mk (part.run (FileTree.change (act · path)).run)) w).2 = w ∨
    (isValidName name = true ∧ ∃ changed,
      act (part.get w) (Path.join root name) = .ok changed ∧
      (outcome (onFile root name fun path =>
        ExceptT.mk (part.run (FileTree.change (act · path)).run)) w).2 = part.set changed w) := by
  cases valid : isValidName name with
  | false =>
    rw [outcome_onFile_of_invalid valid]
    exact Or.inl rfl
  | true =>
    rw [outcome_onFile valid, FileTree.outcome_change]
    cases done : act (part.get w) (Path.join root name) with
    | error e => exact Or.inl rfl
    | ok changed => exact Or.inr ⟨rfl, changed, rfl, rfl⟩

section Looks

variable (part : Part W FileTree) (label root name : String) (w : W)

private theorem look_quiet {α : Type} (view : String → FileTree → Except DiskError α)
    (path : String) (w : W) :
    (outcome (ExceptT.mk (part.run (FileTree.look (view path)).run)) w).2 = w := by
  rw [FileTree.outcome_look]

theorem contains_quiet :
    (outcome ((operations (FileTree.disk part) label root).contains name) w).2 = w := by
  simp only [operations, contains]
  split
  · rw [outcome_bind, outcome_liftM, run_run]
    simp only [FileTree.disk, FileTree.outcome_look]
    split <;> rfl
  · rfl

theorem read_quiet :
    (outcome ((operations (FileTree.disk part) label root).read name) w).2 = w :=
  onFile_look (look_quiet part fun path tree => tree.read path) root name w

theorem stat_quiet :
    (outcome ((operations (FileTree.disk part) label root).stat name) w).2 = w := by
  simp only [operations, stat]
  rw [outcome_bind]
  have kept := onFile_look (look_quiet part fun path tree => tree.inspect path) root name w
  split
  next standing between reached =>
    obtain rfl : between = w := (congrArg Prod.snd reached).symm.trans kept
    cases standing <;> rfl
  next e between reached => exact (congrArg Prod.snd reached).symm.trans kept

end Looks

/-- What a request does to the tree: nothing, or it puts the file that it asks to be stored into the
directory, or it takes one away. -/
theorem request_cases (houses : (part.get w).Houses root place) (label : String)
    (asked : Request) :
    (outcome ((operations (FileTree.disk part) label root).request asked) w).2 = w ∨
    (∃ name content, asked.stores? = some (name, content) ∧
      (part.get w).at? (place ++ [EntryName.ofText name]) ≠ some .directory ∧
      (outcome ((operations (FileTree.disk part) label root).request asked) w).2 =
        part.set ((part.get w).put (place ++ [EntryName.ofText name]) (.file content)) w) ∨
    ∃ name, (part.get w).at? (place ++ [EntryName.ofText name]) ≠ some .directory ∧
      (outcome ((operations (FileTree.disk part) label root).request asked) w).2 =
        part.set ((part.get w).erase (place ++ [EntryName.ofText name])) w := by
  -- the path of a valid name leads nowhere but into the directory
  have entry {name : String} (valid : isValidName name = true) {follow : Bool}
      {location : TreeLocation}
      (located : (part.get w).locate follow (Path.join root name) = .ok location) :
      location = place ++ [EntryName.ofText name] := by
    rw [houses.locate_join valid] at located
    split at located
    · cases located
    · exact (Except.ok.inj located).symm
  cases asked with
  | list =>
    refine Or.inl ?_
    rw [outcome_request_list, outcome_list houses]
  | contains name =>
    rw [outcome_request_contains]
    exact Or.inl (contains_quiet part label root name w)
  | read name =>
    rw [outcome_request_read]
    exact Or.inl (read_quiet part label root name w)
  | stat name =>
    rw [outcome_request_stat]
    exact Or.inl (stat_quiet part label root name w)
  | write name content =>
    rw [outcome_request_write]
    rcases onFile_change part (fun tree path => tree.write path content) root name w with
      same | ⟨valid, changed, written, after⟩
    · exact Or.inl same
    · obtain ⟨location, located, noDirectory, rfl⟩ := FileTree.eq_put_of_write written
      obtain rfl := entry valid located
      exact Or.inr (Or.inl ⟨name, content, rfl, noDirectory, after⟩)
  | create name content =>
    rw [outcome_request_create]
    simp only [operations]
    rw [outcome_bind_pure _ fun _ => FileInfo.mk name content.size]
    rcases onFile_change part (fun tree path => tree.create path content) root name w with
      same | ⟨valid, changed, created, after⟩
    · exact Or.inl same
    · obtain ⟨location, located, nothing, rfl⟩ := FileTree.eq_put_of_create created
      obtain rfl := entry valid located
      exact Or.inr (Or.inl ⟨name, content, rfl, by simp [nothing], after⟩)
  | delete name =>
    rw [outcome_request_delete]
    rcases onFile_change part (fun tree path => tree.remove path) root name w with
      same | ⟨valid, changed, removed, after⟩
    · exact Or.inl same
    · obtain ⟨location, located, noDirectory, rfl⟩ := FileTree.eq_erase_of_remove removed
      obtain rfl := entry valid located
      exact Or.inr (Or.inr ⟨name, noDirectory, after⟩)

end DirectoryStore

/-- A directory with one picture in it. -/
def cameraTree : FileTree :=
  { nodes := [([EntryName.ofText "camera"], .directory),
      ([EntryName.ofText "camera", EntryName.ofText "a.jpg"], .file "old".toUTF8)] }

theorem cameraTree_at? (entry : EntryName) :
    cameraTree.at? ([EntryName.ofText "camera"] ++ [entry]) =
      if entry = EntryName.ofText "a.jpg" then some (.file "old".toUTF8) else none := by
  simp [FileTree.at?, cameraTree, lookup_cons_ite]

theorem cameraTree_houses : cameraTree.Houses "/camera" [EntryName.ofText "camera"] where
  located := cameraTree.locate_top "camera" (isName_of_isValidName (by decide)) (by decide) rfl
  directory := rfl
  linkless entry target := by
    rw [cameraTree_at?]
    split <;> simp
  distinct := by
    rw [FileTree.Distinct]
    decide

end CameraRoll
