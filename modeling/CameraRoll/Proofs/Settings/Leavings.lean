import CameraRoll.Proofs.Disk.Beside
import CameraRoll.Proofs.Settings.Agreement

/-!
What setting a flag in a file leaves in the tree, whether it succeeds or fails. The new object is
written through whatever stands beside the path, then moved onto the path; links that stand in the
way are taken into account. Main statements: `SettingsFile.set_cases` for how far setting a flag can
come, and `SettingsFile.set_leaves` for what it leaves. `SettingsFile.set_leaves_temporary` has a
path at which a failure leaves a file.
-/

namespace CameraRoll

namespace FileTree

variable {tree made written after : FileTree} {front name path : String} {place : TreeLocation}
  {content : ByteArray}

/-- Two trees have the same files with the same contents. -/
def SameFiles (before after : FileTree) : Prop :=
  ∀ location content,
    after.at? location = some (.file content) ↔ before.at? location = some (.file content)

/-- Neither file nor directory nor link stands at a path. -/
def IsVacant (tree : FileTree) (path : String) : Prop :=
  ∀ location, tree.locate false path = .ok location → tree.at? location = none

/-! ### A file that is written beside a name -/

namespace WrittenBeside

variable (beside : WrittenBeside made written front name place content)
include beside

/-- Nothing is left beside a name that something was moved onto. -/
theorem isVacant_of_rename (ends : Path.EndsOpen front) (named : Path.IsName name)
    (renamed : written.rename (front ++ (name ++ ".tmp")) (front ++ name) = .ok after) :
    after.IsVacant (front ++ (name ++ ".tmp")) := by
  intro location located
  obtain ⟨node, standing, noDirectory⟩ := beside.exists_standing
  rw [beside.rename_eq ends named standing noDirectory] at renamed
  split at renamed
  · cases renamed
  · obtain rfl := Except.ok.inj renamed
    have named' := isName_append_tmp named
    obtain ⟨other, moved⟩ := Leads.of_locate_append ends named' located
    -- the directory of the name is the one that it was
    obtain rfl : other = place := (beside.leads_of_moved standing moved).unique beside.leads
    have last := moved.locate_last ends named' beside.short
    obtain rfl : spare other name = location := Except.ok.inj (last.symm.trans located)
    rw [at?_put _ (by simp), if_neg (spot_ne_spare other name).symm, at?_erase _ (by simp),
      if_pos rfl]

/-- What was written stays where it is if a directory stands at the name. -/
theorem of_rename_error (ends : Path.EndsOpen front) (named : Path.IsName name) {e : DiskError}
    (refused : written.rename (front ++ (name ++ ".tmp")) (front ++ name) = .error e) :
    made.inspect (front ++ name) = .ok .directory := by
  obtain ⟨node, standing, noDirectory⟩ := beside.exists_standing
  rw [beside.rename_eq ends named standing noDirectory] at refused
  split at refused
  next directory =>
    rw [beside.directory_iff] at directory
    have located := beside.leads.locate_plain ends named beside.shortName (by simp [directory]) true
    rw [inspect_of_locate located, directory]
  next => cases refused

/-- The only file that is new or changed is where the path beside the name leads. -/
theorem file_iff : ∃ location,
    written.locate true (front ++ (name ++ ".tmp")) = .ok location ∧
      ∀ other held, written.at? other = some (.file held) ↔
        if other = location then held = content else made.at? other = some (.file held) := by
  obtain ⟨location, located, free, rfl⟩ := beside.put
  have standing : (made.put location (.file content)).at? location = some (.file content) := by
    rw [at?_put _ free.ne_nil, if_pos rfl]
  refine ⟨location, ?_, fun other held => ?_⟩
  · exact (KeepsWays.put free _).locate located fun _ => Or.inr ⟨_, standing⟩
  · rw [at?_put _ free.ne_nil]
    split
    · simp [eq_comm]
    · rfl

end WrittenBeside

end FileTree

/-! ### Setting a flag -/

namespace SettingsFile

open FileTree

variable {W : Type} {part : Part W FileTree} {w : W} {path front name directory : String}
  {members : Members}

/-- A directory stands at a path at which nothing was, once the directories above it are made. -/
structure Blocked (tree : FileTree) (path : String) : Prop where
  missing : tree.read path = .error .notFound
  made : ∃ directory made, Path.parent? path = some directory ∧
    tree.makeDirectories directory = (.ok (), made) ∧ made.inspect path = .ok .directory

/-- The directory that is made for a path that ends in a name. -/
abbrev aboveName (front : String) : String :=
  Path.ofParts (Path.isAbsolute front) (Path.parts front)

/-- Setting a flag fails after no more than directories were made, or comes to the move. -/
theorem set_cases (rooted : (part.get w).Rooted) (ends : Path.EndsOpen front)
    (proper : Path.IsPart name) (noUp : name ≠ "..") (key : String) (value : Bool) :
    let ended := outcome ((operations (FileTree.disk part) (front ++ name)).set key value) w
    (∃ e left, ended = (.error e, part.set left w) ∧ (part.get w).Paved left) ∨
    ∃ members made written place, membersIn (part.get w) (front ++ name) = .ok members ∧
      Path.IsName name ∧ (part.get w).makeDirectories (aboveName front) = (.ok (), made) ∧
      WrittenBeside made written front name place
        (JsonValue.object (insertMember key (.bool value) members)).render.toUTF8 ∧
      ended = match written.rename (front ++ (name ++ ".tmp")) (front ++ name) with
        | .ok replaced => (.ok (), part.set replaced w)
        | .error _ => (.error .unwritable, part.set written w) := by
  intro ended
  have isSet : ended = _ := outcome_set_eq part (front ++ name) key value w
  cases found : membersIn (part.get w) (front ++ name) with
  | error e =>
    rw [found] at isSet
    refine Or.inl ⟨e, part.get w, ?_, .refl _⟩
    rw [part.set_get]
    exact isSet
  | ok members =>
    rw [found] at isSet
    have read := read_of_membersIn found
    have noNul := noNul_of_read (by simp [proper.nonempty]) (read.imp_right And.left)
    simp only [String.toList_append, List.mem_append, not_or] at noNul
    have named : Path.IsName name := ⟨proper, noUp, noNul.2⟩
    rcases outcome_replace_cases part w (Path.parent?_append ends proper)
      (insertMember key (.bool value) members) with refused | ⟨made, written, ran, wrote, moved⟩
    · exact Or.inl ⟨_, _, isSet.trans refused, (paved_makeDirectories _ _).1⟩
    · obtain ⟨rooted', place, leads⟩ := rooted.of_makeDirectories noNul.1 ran
      rw [temporaryPath, String.append_assoc] at wrote moved
      exact Or.inr ⟨members, made, written, place, rfl, named, ran,
        rooted'.writtenBeside leads ends named wrote, isSet.trans moved⟩

/-- What is a directory once directories were made was missing before, or was one. -/
theorem missing_of_directory {tree made : FileTree} (found : membersIn tree path = .ok members)
    (paved : tree.Paved made) (directory : made.inspect path = .ok .directory) :
    tree.read path = .error .notFound ∧ members = [] := by
  refine (read_of_membersIn found).resolve_left ?_
  rintro ⟨content, read⟩
  obtain ⟨place, located, file⟩ := read_eq_ok.mp (paved.read read)
  rw [inspect_of_locate located, file] at directory
  cases directory

/-- A flag that cannot be set leaves all files as they are, and adds none, but for a path that is
blocked: there the new object may be left where the path beside it leads. After a flag was set
nothing is left there, and asking for a flag leaves the tree as it is. -/
theorem set_leaves (rooted : (part.get w).Rooted) (ends : Path.EndsOpen front)
    (proper : Path.IsPart name) (noUp : name ≠ "..") (key : String) (value : Bool) :
    let path := front ++ name
    let settings := operations (FileTree.disk part) path
    let ended := outcome (settings.set key value) w
    let after := part.get ended.2
    (∀ default, (outcome (settings.get key default) w).2 = w) ∧
    (ended.1 = .ok () → after.IsVacant (temporaryPath path)) ∧
    (∀ e, ended.1 = .error e →
      (part.get w).SameFiles after ∨
      Blocked (part.get w) path ∧
        ∃ location, after.locate true (temporaryPath path) = .ok location ∧
          ∀ other content, after.at? other = some (.file content) ↔
            if other = location then
              content = (JsonValue.object [(key, .bool value)]).render.toUTF8
            else (part.get w).at? other = some (.file content)) := by
  intro path settings ended after
  refine ⟨fun default => congrArg Prod.snd (outcome_get_eq part path key default w), ?_⟩
  have beside : temporaryPath path = front ++ (name ++ ".tmp") := String.append_assoc
  rw [beside]
  rcases set_cases rooted ends proper noUp key value with
    ⟨e, left, isLeft, paved⟩ | ⟨members, made, written, place, found, named, ran, written', isMoved⟩
  · -- nothing but directories was made
    have same : after = left := (congrArg (part.get ·.2) isLeft).trans (part.get_set _ _)
    rw [same]
    refine ⟨fun done => ?_, fun _ _ => Or.inl fun _ _ => paved.file_iff⟩
    cases (congrArg Prod.fst isLeft).symm.trans done
  · have paved : (part.get w).Paved made := by
      have paved := (paved_makeDirectories (part.get w) (aboveName front)).1
      rwa [ran] at paved
    cases renamed : written.rename (front ++ (name ++ ".tmp")) (front ++ name) with
    | ok replaced =>
      rw [renamed] at isMoved
      have same : after = replaced := (congrArg (part.get ·.2) isMoved).trans (part.get_set _ _)
      rw [same]
      refine ⟨fun _ => written'.isVacant_of_rename ends named renamed, fun e failed => ?_⟩
      cases (congrArg Prod.fst isMoved).symm.trans failed
    | error reason =>
      rw [renamed] at isMoved
      have same : after = written := (congrArg (part.get ·.2) isMoved).trans (part.get_set _ _)
      rw [same]
      refine ⟨fun done => ?_, fun _ _ => Or.inr ?_⟩
      · cases (congrArg Prod.fst isMoved).symm.trans done
      · -- only the move is refused: a directory stands there by now, and none did before
        have directory := written'.of_rename_error ends named renamed
        obtain ⟨missing, rfl⟩ := missing_of_directory found paved directory
        refine ⟨⟨missing, _, made, Path.parent?_append ends proper, ran, directory⟩, ?_⟩
        obtain ⟨location, located, files⟩ := written'.file_iff
        refine ⟨location, located, fun other content => (files other content).trans ?_⟩
        split
        · rfl
        · exact paved.file_iff

/-! ### Settings that are none -/

/-- Where the settings should be stands an array. -/
def arrayTree : FileTree :=
  { nodes := [([EntryName.ofText "settings.json"], .file "[1, 2]".toUTF8)] }

theorem arrayTree_rooted : arrayTree.Rooted where
  working := rfl
  above location entry present := by
    rw [at?_of_ne_nil _ (by simp), arrayTree, lookup_cons_ite] at present
    split at present
    next same =>
      obtain ⟨rfl, -⟩ := List.append_inj' (same.trans (List.nil_append _).symm) rfl
      rfl
    next => exact absurd rfl present

theorem arrayTree_read : arrayTree.read ("" ++ "settings.json") = .ok "[1, 2]".toUTF8 := by
  have named : Path.IsName "settings.json" :=
    ⟨⟨by decide, by decide, by decide⟩, by decide, by decide⟩
  have standing : arrayTree.at? (spot [] "settings.json") = some (.file "[1, 2]".toUTF8) := by
    simp [at?, arrayTree]
  have leads : arrayTree.Leads "" [] := arrayTree.leads_empty
  have plain (target : String) : arrayTree.at? (spot [] "settings.json") ≠ some (.link target) := by
    rw [standing]
    simp
  have located := leads.locate_plain (Or.inl rfl) named (by decide) plain true
  rw [read_of_locate located, standing]

theorem outcome_set_array :
    outcome ((operations (FileTree.disk (Part.whole FileTree)) ("" ++ "settings.json")).set "a"
      true) arrayTree = (.error .malformed, arrayTree) := by
  have array : Json.ofChars? "[1, 2]".toList = some (.array [.whole 1, .whole 2]) := by cbv
  have found : membersIn arrayTree ("" ++ "settings.json") = .error .malformed := by
    rw [membersIn, arrayTree_read]
    simp only [membersOf, JsonValue.read?, fromUTF8?_toUTF8, Option.bind_eq_bind, Option.bind_some,
      array]
  rw [outcome_set_eq, Part.get_whole, found]

/-- An array stays where the settings should be, and new settings take the place of kept ones. -/
theorem set_leaves_settled :
    (let ended := outcome ((operations (FileTree.disk (Part.whole FileTree))
        ("" ++ "settings.json")).set "a" true) arrayTree
     ended.1 = .error .malformed ∧ arrayTree.SameFiles ended.2) ∧
    (let path := "/data/" ++ "settings.json"
     let ended := outcome ((operations (FileTree.disk (Part.whole FileTree)) path).set "a" true)
        settingsTree
     ended.1 = .ok () ∧ ended.2.IsVacant (temporaryPath path)) := by
  have proper : Path.IsPart "settings.json" := ⟨by decide, by decide, by decide⟩
  constructor
  · have failed := congrArg Prod.fst outcome_set_array
    have rooted : ((Part.whole FileTree).get arrayTree).Rooted := arrayTree_rooted
    obtain ⟨-, -, leaves⟩ := set_leaves rooted (Or.inl rfl) proper (by decide) "a" true
    refine ⟨failed, (leaves _ failed).resolve_right ?_⟩
    rintro ⟨⟨missing, -⟩, -⟩
    cases missing.symm.trans arrayTree_read
  · have ends : Path.EndsOpen "/data/" := Or.inr (by decide)
    have rooted : ((Part.whole FileTree).get settingsTree).Rooted := settingsTree_rooted
    have read := congrArg Prod.fst ((outcome_load _ _ _).symm.trans (load_kept settingsTree_read))
    have holds : Holds ((Part.whole FileTree).get settingsTree) ("/data/" ++ "settings.json")
        keptSettings := ⟨settingsTree_writable, read, keptSettings_exact⟩
    obtain ⟨replaced, done, -⟩ := outcome_set holds "a" true
    obtain ⟨-, vacant, -⟩ := set_leaves rooted ends proper (by decide) "a" true
    have done := congrArg Prod.fst done
    exact ⟨done, vacant done⟩

/-- A flag that cannot be set may leave a file that was not there: the directory of these settings
can be made only with one in their own place. -/
theorem set_leaves_temporary :
    let path := "settings.json/../" ++ "settings.json"
    let ended := outcome ((operations (FileTree.disk (Part.whole FileTree)) path).set "a" true) {}
    ended.1 = .error .unwritable ∧ ¬ FileTree.SameFiles {} ended.2 ∧
      ({} : FileTree).at? [EntryName.ofText "settings.json.tmp"] = none ∧
      ended.2.at? [EntryName.ofText "settings.json.tmp"] =
        some (.file (JsonValue.object [("a", .bool true)]).render.toUTF8) := by
  intro path ended
  have beside : spare [] "settings.json" = [EntryName.ofText "settings.json.tmp"] := by decide
  have left := congrArg Prod.snd set_blocked_eq
  have file : ended.2.at? [EntryName.ofText "settings.json.tmp"] =
      some (.file (JsonValue.object [("a", .bool true)]).render.toUTF8) := by
    rw [left, beside, at?_put _ (by simp), if_pos rfl]
  have nothing : ({} : FileTree).at? [EntryName.ofText "settings.json.tmp"] = none := by decide
  refine ⟨congrArg Prod.fst set_blocked_eq, fun same => ?_, nothing, file⟩
  cases nothing.symm.trans ((same _ _).mp file)

end SettingsFile

end CameraRoll
