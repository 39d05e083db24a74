import CameraRoll.Proofs.Disk.Beside
import CameraRoll.Proofs.Json.RoundTrip
import CameraRoll.Settings.File

/-!
Settings in a file of a tree: what is read back after a flag was set. A path is `Writable` if its
directory is there or can be made, and then nothing stands in the way of the file. Main statements:
`outcome_set`, by which a flag that is set goes into the members of the file, and the path stays
writable, and `writable_of_replace`, by which members are kept at no other paths.
-/

namespace CameraRoll

open FileTree

namespace FileTree

variable {tree : FileTree} {path : String}

theorem noNul_of_read (nonempty : path ≠ "")
    (read : (∃ content, tree.read path = .ok content) ∨ tree.read path = .error .notFound) :
    '\x00' ∉ path.toList := by
  intro nul
  have lost : tree.locate true path = .error (.other "a path holds a NUL") := by
    rw [locate, if_neg (by simpa using nonempty), if_pos (by simpa using nul)]
  rw [read_of_locate_error lost] at read
  rcases read with ⟨content, same⟩ | same <;> cases same

end FileTree

namespace SettingsFile

variable {W : Type} {part : Part W FileTree} {tree : FileTree} {w : W} {path : String}
  {members : Members} {directory : String}

/-- A path that settings can be kept at. It ends in a name that leaves room for the one beside it.
Its directory is there or can be made, and then no directory stands at the path, and the path beside
it, links followed and the settings themselves left aside, leads to a file or to where one can be
made. -/
structure Writable (tree : FileTree) (path : String) : Prop where
  rooted : tree.Rooted
  named : ∃ front name, path = front ++ name ∧ Path.EndsOpen front ∧ Path.IsName name ∧
    name.utf8ByteSize ≤ 251
  made : ∃ directory made entry, Path.parent? path = some directory ∧
    tree.makeDirectories directory = (.ok (), made) ∧
    made.locate false path = .ok entry ∧ made.at? entry ≠ some .directory ∧
    ∃ goal, (made.erase entry).locate true (temporaryPath path) = .ok goal ∧ goal ≠ entry ∧
      made.IsFree goal

/-- What a writable path comes down to once its directory is made. -/
theorem Writable.isReplaceable (writable : Writable tree path) :
    ∃ front name directory made place, path = front ++ name ∧ Path.EndsOpen front ∧
      Path.IsName name ∧ name.utf8ByteSize ≤ 251 ∧ Path.parent? path = some directory ∧
      tree.makeDirectories directory = (.ok (), made) ∧ made.IsReplaceable front name place := by
  obtain ⟨rooted, ⟨front, name, rfl, ends, named, short⟩, directory, made, entry, parent, done,
    located, noDirectory, goal, beside, apart, free⟩ := writable
  obtain rfl := Option.some.inj ((Path.parent?_append ends named.toIsPart).symm.trans parent)
  have noNul : '\x00' ∉ front.toList := by
    have clear := (locate_ok located).2
    simp only [String.toList_append, List.mem_append, not_or] at clear
    exact clear.1
  obtain ⟨rooted', place, leads⟩ := rooted.of_makeDirectories noNul done
  -- the settings are in the directory that was made
  have last := leads.locate_last ends named
    (utf8ByteSize_of_append_tmp (utf8ByteSize_append_tmp short))
  obtain rfl : spot place name = entry := Except.ok.inj (last.symm.trans located)
  rw [temporaryPath, String.append_assoc] at beside
  obtain ⟨other, without⟩ := Leads.of_locate_append ends (isName_append_tmp named) beside
  obtain rfl : other = place := ((KeepsWays.of_erase (by simp)).leads without).unique leads
  exact ⟨front, name, _, made, other, rfl, ends, named, short, parent, done, rooted', noDirectory,
    without, goal, beside, apart, free⟩

/-- A name that can be replaced once its directory is made makes a writable path. -/
theorem Writable.of_isReplaceable {front name : String} {made : FileTree} {place : TreeLocation}
    (rooted : tree.Rooted) (ends : Path.EndsOpen front) (named : Path.IsName name)
    (short : name.utf8ByteSize ≤ 251)
    (done : tree.makeDirectories (Path.ofParts (Path.isAbsolute front) (Path.parts front)) =
      (.ok (), made)) (replaceable : made.IsReplaceable front name place) :
    Writable tree (front ++ name) where
  rooted := rooted
  named := ⟨front, name, rfl, ends, named, short⟩
  made := by
    obtain ⟨-, noDirectory, without, goal, beside, apart, free⟩ := replaceable
    have leads := (KeepsWays.of_erase (by simp)).leads without
    have last := leads.locate_last ends named
      (utf8ByteSize_of_append_tmp (utf8ByteSize_append_tmp short))
    rw [← String.append_assoc] at beside
    exact ⟨_, made, _, Path.parent?_append ends named.toIsPart, done, last, noDirectory, goal,
      beside, apart, free⟩

/-- The members that are read from a tree. -/
def membersIn (tree : FileTree) (path : String) : Except SettingsError Members :=
  match tree.read path with
  | .ok bytes => membersOf bytes
  | .error .notFound => .ok []
  | .error _ => .error .unreadable

theorem read_of_membersIn (found : membersIn tree path = .ok members) :
    (∃ content, tree.read path = .ok content) ∨
      tree.read path = .error .notFound ∧ members = [] := by
  unfold membersIn at found
  split at found
  next bytes read => exact Or.inl ⟨bytes, read⟩
  next missing => exact Or.inr ⟨missing, (Except.ok.inj found).symm⟩
  next => cases found

theorem outcome_load (part : Part W FileTree) (path : String) (w : W) :
    outcome (load (FileTree.disk part) path) w = (membersIn (part.get w) path, w) := by
  simp only [load]
  rw [outcome_bind, outcome_liftM, run_run]
  simp only [FileTree.disk, outcome_look, membersIn]
  cases (part.get w).read path with
  | ok bytes =>
    dsimp only
    rfl
  | error e => cases e <;> rfl

/-- A change of the tree on the way to a new file. -/
theorem outcome_writing (part : Part W FileTree) (act : FileTree → Except DiskError FileTree)
    (between : FileTree) (w : W) :
    outcome (writing (ExceptT.mk (part.run (change act).run))) (part.set between w) =
      match act between with
      | .ok changed => (.ok (), part.set changed w)
      | .error _ => (.error .unwritable, part.set between w) := by
  rw [writing, outcome_adapt, outcome_change, part.get_set]
  cases act between with
  | ok changed => exact congrArg (Prod.mk _) (part.set_set changed between w)
  | error e => rfl

/-- The object is written beside the path and moved from there, after the directory was made. -/
theorem outcome_replace_of_made {directory : String} {made written : FileTree}
    (parent : Path.parent? path = some directory)
    (done : (part.get w).makeDirectories directory = (.ok (), made)) (members : Members)
    (wrote : made.write (temporaryPath path) (JsonValue.object members).render.toUTF8 =
      .ok written) :
    outcome (replace (FileTree.disk part) path members) w =
      match written.rename (temporaryPath path) path with
      | .ok replaced => (.ok (), part.set replaced w)
      | .error _ => (.error .unwritable, part.set written w) := by
  have first : outcome (writing ((FileTree.disk part).makeDirectories directory)) w =
      (.ok (), part.set made w) :=
    outcome_adapt_ok (congrArg (fun made => (made.1, part.set made.2 w)) done) _
  have second : outcome (writing ((FileTree.disk part).write (temporaryPath path)
      (JsonValue.object members).render.toUTF8)) (part.set made w) =
      (.ok (), part.set written w) :=
    (outcome_writing part (·.write (temporaryPath path) _) made w).trans (by rw [wrote])
  simp only [replace, parent]
  rw [outcome_bind_ok first, outcome_bind_ok second]
  exact outcome_writing part (·.rename (temporaryPath path) path) written w

/-- How far replacing the object can come: to the directories, to the new file, or to the end. -/
theorem outcome_replace_cases (part : Part W FileTree) (w : W)
    (parent : Path.parent? path = some directory) (members : Members) :
    outcome (replace (FileTree.disk part) path members) w =
      (.error .unwritable, part.set ((part.get w).makeDirectories directory).2 w) ∨
    ∃ made written, (part.get w).makeDirectories directory = (.ok (), made) ∧
      made.write (temporaryPath path) (JsonValue.object members).render.toUTF8 = .ok written ∧
      outcome (replace (FileTree.disk part) path members) w =
        match written.rename (temporaryPath path) path with
        | .ok replaced => (.ok (), part.set replaced w)
        | .error _ => (.error .unwritable, part.set written w) := by
  have first : outcome (writing ((FileTree.disk part).makeDirectories directory)) w =
      (((part.get w).makeDirectories directory).1.mapError fun _ => .unwritable,
        part.set ((part.get w).makeDirectories directory).2 w) := rfl
  rcases ran : (part.get w).makeDirectories directory with ⟨answer, made⟩
  rw [ran] at first
  cases answer with
  | error e =>
    refine Or.inl ?_
    simp only [replace, parent]
    exact outcome_bind_error first _
  | ok done =>
    cases wrote : made.write (temporaryPath path) (JsonValue.object members).render.toUTF8 with
    | error e =>
      refine Or.inl ?_
      have second : outcome (writing ((FileTree.disk part).write (temporaryPath path)
          (JsonValue.object members).render.toUTF8)) (part.set made w) =
          (.error .unwritable, part.set made w) :=
        (outcome_writing part (·.write (temporaryPath path) _) made w).trans (by rw [wrote])
      simp only [replace, parent]
      rw [outcome_bind_ok first]
      exact outcome_bind_error second _
    | ok written =>
      exact Or.inr ⟨made, written, rfl, wrote, outcome_replace_of_made parent ran members wrote⟩

theorem outcome_replace (writable : Writable (part.get w) path) (members : Members) :
    ∃ replaced, outcome (replace (FileTree.disk part) path members) w =
        (.ok (), part.set replaced w) ∧
      Writable replaced path ∧
      replaced.read path = .ok (JsonValue.object members).render.toUTF8 := by
  obtain ⟨front, name, directory, made, place, rfl, ends, named, short, parent, done,
    replaceable⟩ := writable.isReplaceable
  obtain ⟨written, replaced, wrote, renamed, still, read⟩ :=
    replaceable.replace ends named (JsonValue.object members).render.toUTF8
  have leads := (KeepsWays.of_erase (by simp)).leads still.leads
  have standing := still.rooted.makeDirectories_of_leads leads
  rw [← String.append_assoc] at wrote renamed
  refine ⟨replaced, ?_, .of_isReplaceable still.rooted ends named short standing still, read⟩
  rw [outcome_replace_of_made parent done members wrote, temporaryPath, renamed]

/-- Members are kept at no other paths. -/
theorem writable_of_replace {front name : String} {w' : W} {held : ByteArray}
    (rooted : (part.get w).Rooted) (ends : Path.EndsOpen front) (named : Path.IsName name)
    (short : name.utf8ByteSize ≤ 251)
    (done : outcome (replace (FileTree.disk part) (front ++ name) members) w = (.ok (), w'))
    (read : (part.get w').read (front ++ name) = .ok held) :
    Writable (part.get w) (front ++ name) := by
  rcases outcome_replace_cases part w (Path.parent?_append ends named.toIsPart) members with
    refused | ⟨made, written, ran, wrote, moved⟩
  · cases done.symm.trans refused
  · rw [done, temporaryPath, String.append_assoc] at moved
    rw [temporaryPath, String.append_assoc] at wrote
    split at moved
    next replaced renamed =>
      obtain rfl := congrArg Prod.snd moved
      rw [part.get_set] at read
      obtain ⟨goal, located, -⟩ := eq_put_of_write wrote
      have noNul := (locate_ok located).2
      simp only [String.toList_append, List.mem_append, not_or] at noNul
      obtain ⟨rooted', place, leads⟩ := rooted.of_makeDirectories noNul.1 ran
      obtain ⟨goal, node, replaced⟩ := Replaced.of_rename rooted' leads ends named wrote renamed
      exact .of_isReplaceable rooted ends named short ran
        (replaced.isReplaceable_before ends named read)
    next => cases congrArg Prod.fst moved

/-! ### Flags in the file -/

theorem membersOf_render (readable : (JsonValue.object members).Readable 0)
    (exact : (JsonValue.object members).Exact) :
    membersOf (JsonValue.object members).render.toUTF8 = .ok members := by
  rw [membersOf, JsonValue.read?, fromUTF8?_toUTF8, Option.bind_eq_bind, Option.bind_some,
    JsonValue.render, String.toList_ofList, Json.ofChars?_write readable exact]

theorem readable_of_membersIn (found : membersIn tree path = .ok members) :
    (JsonValue.object members).Readable 0 := by
  unfold membersIn at found
  split at found
  next bytes _ =>
    unfold membersOf at found
    split at found
    next taken read =>
      cases found
      exact JsonValue.readable_of_read? read
    next => cases found
  next =>
    cases found
    exact JsonValue.readable_object.mpr ⟨by decide, List.Pairwise.nil, by simp⟩
  next => cases found

/-- Of several members that the file has under one key the last one counts. -/
theorem lookup_of_tokens (found : membersIn tree path = .ok members) {text : String}
    {entries : Members} (read : tree.read path = .ok text.toUTF8)
    (written : Json.tokens text.toList = some (Json.tokensOf (.object entries)))
    (readable : JsonValue.MembersReadable 1 entries) (key : String) :
    members.lookup key = entries.reverse.lookup key := by
  obtain ⟨taken, parsed, last⟩ := Json.ofTokens?_object readable
  rw [membersIn, read] at found
  simp only [membersOf, JsonValue.read?, fromUTF8?_toUTF8, Json.ofChars?, written, parsed,
    Option.bind_eq_bind, Option.bind_some] at found
  cases found
  exact last key

theorem exact_insertMember (exact : (JsonValue.object members).Exact) (key : String)
    (value : Bool) : (JsonValue.object (insertMember key (.bool value) members)).Exact := by
  rw [JsonValue.Exact, JsonValue.membersExact_iff] at exact ⊢
  intro member present
  rcases mem_insertMember present with rfl | old
  · trivial
  · exact exact member old

/-- The file at a path holds these members, and they can be replaced. -/
structure Holds (tree : FileTree) (path : String) (members : Members) : Prop where
  writable : Writable tree path
  read : membersIn tree path = .ok members
  exact : (JsonValue.object members).Exact

theorem outcome_get_eq (part : Part W FileTree) (path key : String) (default : Bool) (w : W) :
    outcome ((operations (FileTree.disk part) path).get key default) w =
      ((membersIn (part.get w) path).map (flag · key default), w) := by
  simp only [operations]
  rw [outcome_bind_pure, outcome_load]

theorem outcome_get (holds : Holds (part.get w) path members) (key : String) (default : Bool) :
    outcome ((operations (FileTree.disk part) path).get key default) w =
      (.ok (flag members key default), w) := by
  rw [outcome_get_eq, holds.read]
  rfl

theorem outcome_set_eq (part : Part W FileTree) (path key : String) (value : Bool) (w : W) :
    outcome ((operations (FileTree.disk part) path).set key value) w =
      match membersIn (part.get w) path with
      | .ok members =>
        outcome (replace (FileTree.disk part) path (insertMember key (.bool value) members)) w
      | .error e => (.error e, w) := by
  have loaded := outcome_load part path w
  simp only [operations]
  cases found : membersIn (part.get w) path with
  | ok members =>
    rw [found] at loaded
    exact outcome_bind_ok loaded _
  | error e =>
    rw [found] at loaded
    exact outcome_bind_error loaded _

/-- A flag that is set goes into the members of the file. -/
theorem outcome_set (holds : Holds (part.get w) path members) (key : String) (value : Bool) :
    ∃ replaced, outcome ((operations (FileTree.disk part) path).set key value) w =
        (.ok (), part.set replaced w) ∧
      Holds replaced path (insertMember key (.bool value) members) := by
  have loaded := outcome_load part path w
  rw [holds.read] at loaded
  have readable := JsonValue.readable_object.mp (readable_of_membersIn holds.read)
  have readable' : (JsonValue.object (insertMember key (.bool value) members)).Readable 0 :=
    JsonValue.readable_object.mpr
      ⟨readable.1, Json.readable_insertMember readable.2 (by trivial)⟩
  have exact := exact_insertMember holds.exact key value
  obtain ⟨replaced, ran, writable, read⟩ := outcome_replace holds.writable
    (insertMember key (.bool value) members)
  refine ⟨replaced, ?_, writable, ?_, exact⟩
  · simp only [operations]
    rw [outcome_bind_ok loaded, ran]
  · rw [membersIn, read]
    exact membersOf_render readable' exact

/-- No flag can be set where a directory stands at the path once its own directory is made: the new
object stays beside it. -/
theorem outcome_set_of_directory {front name : String} {made : FileTree} {place : TreeLocation}
    (read : membersIn (part.get w) (front ++ name) = .ok members) (ends : Path.EndsOpen front)
    (named : Path.IsName name) (short : name.utf8ByteSize ≤ 251)
    (done : (part.get w).makeDirectories (Path.ofParts (Path.isAbsolute front) (Path.parts front)) =
      (.ok (), made))
    (leads : made.Leads front place)
    (blocked : made.at? (spot place name) = some .directory)
    (free : made.IsFree (spare place name)) (key : String) (value : Bool) :
    outcome ((operations (FileTree.disk part) (front ++ name)).set key value) w =
      (.error .unwritable, part.set (made.put (spare place name)
        (.file (JsonValue.object (insertMember key (.bool value) members)).render.toUTF8)) w) := by
  have loaded := outcome_load part (front ++ name) w
  rw [read] at loaded
  simp only [operations]
  rw [outcome_bind_ok loaded]
  generalize insertMember key (.bool value) members = changed
  -- writing beside the directory succeeds, moving onto it does not
  have wrote := leads.write_beside ends named short free (JsonValue.object changed).render.toUTF8
  have standing : (made.put (spare place name) (.file (JsonValue.object changed).render.toUTF8)).at?
      (spare place name) = some (.file (JsonValue.object changed).render.toUTF8) := by
    rw [at?_put _ (by simp), if_pos rfl]
  have renamed := (leads.put free _).rename_beside ends named (utf8ByteSize_append_tmp short)
    standing (by simp)
  rw [at?_put _ (by simp), if_neg (spot_ne_spare place name), blocked] at renamed
  rw [← String.append_assoc] at wrote renamed
  rw [outcome_replace_of_made (Path.parent?_append ends named.toIsPart) done changed wrote,
    temporaryPath, renamed]

end SettingsFile

end CameraRoll
