import CameraRoll.CommandLine.Run
import CameraRoll.Proofs.Catalog.Folders
import CameraRoll.Proofs.Resolver.Taken

/-!
What commands do to the directories of a library. Main statements: `execute_ends`, by which every
command ends in one of six ways, and `exists_captureTime_of_taken`, by which before the year 9000 a
new picture has a time whatever stands in its directory.
-/

namespace CameraRoll.CommandLine

open CameraRoll.Calendar CameraRoll.Naming FileTree Library

variable {W α β : Type} {part : Part W FileTree} {place : Location → TreeLocation} {w : W}

/-! ### Steps of a command -/

/-- The answer of a step of a command, the catalog after it and the world after it. -/
def stepped (act : Step (StateM W) α) (catalog : Catalog) (w : W) :
    (Except CommandError α × Catalog) × W :=
  (act.run.run catalog).run w

theorem stepped_bind (act : Step (StateM W) α) (next : α → Step (StateM W) β) (catalog : Catalog)
    (w : W) :
    stepped (act >>= next) catalog w =
      match stepped act catalog w with
      | ((.ok a, between), w) => stepped (next a) between w
      | ((.error e, between), w) => ((.error e, between), w) := by
  simp only [stepped, Bind.bind, ExceptT.bind, ExceptT.run, ExceptT.mk, ExceptT.bindCont,
    StateT.run, StateT.bind]
  rcases act catalog w with ⟨⟨answer, between⟩, w⟩
  cases answer <;> rfl

theorem stepped_bind_ok {act : Step (StateM W) α} {catalog between : Catalog} {middle : W} {a : α}
    (done : stepped act catalog w = ((.ok a, between), middle)) (next : α → Step (StateM W) β) :
    stepped (act >>= next) catalog w = stepped (next a) between middle := by
  rw [stepped_bind, done]

theorem stepped_bind_error {act : Step (StateM W) α} {catalog between : Catalog} {middle : W}
    {e : CommandError} (failed : stepped act catalog w = ((.error e, between), middle))
    (next : α → Step (StateM W) β) :
    stepped (act >>= next) catalog w = ((.error e, between), middle) := by
  rw [stepped_bind, failed]

/-- An operation of the catalog. -/
theorem stepped_inLibrary (act : Action (StateM W) α) (catalog : Catalog) (w : W) :
    stepped (inLibrary act) catalog w =
      (((performed act catalog w).1.1.mapError fun _ => .library, (performed act catalog w).1.2),
        (performed act catalog w).2) := rfl

/-! ### How a command ends -/

/-- What kind of picture a file is saved as. -/
def mediaKindOf (video : Bool) : MediaKind := if video then .video else .image

/-- How a command can end that does not copy pictures out: it fails, and has added thumbnails at
most; it has looked at pictures; or it has saved or deleted one. -/
inductive Ends (library : Library (StateM W)) (part : Part W FileTree)
    (place : Location → TreeLocation) (now : Instant) (before : W) :
    Command → Except CommandError (List String) → W → Prop
  | failed (command : Command) (e : CommandError) {after : W}
      (added : FilesAdded part (IsThumbnailPlace place) before after) :
      Ends library part place now before command (.error e) after
  | listed (lines : List String) {after : W}
      (added : FilesAdded part (IsThumbnailPlace place) before after) :
      Ends library part place now before .list (.ok lines) after
  | checked (lines : List String) {after : W}
      (added : FilesAdded part (IsThumbnailPlace place) before after) :
      Ends library part place now before .check (.ok lines) after
  | shown (thumbnail : Bool) (lines : List String) {picture : Picture} {after : W}
      (added : FilesAdded part (IsThumbnailPlace place) before after)
      (isListed : library.IsListed place (part.get before) (part.get after) picture) :
      Ends library part place now before (.url picture.name thumbnail) (.ok lines) after
  | saved (file : String) (video : Bool) (lines : List String) {n : Nat} {content : ByteArray}
      {between after : W} (added : FilesAdded part (IsThumbnailPlace place) before between)
      (nothing : (part.get between).at? (entryAt (place library.resolver.authoritative)
        (nextName^[n] (canonicalName (mediaKindOf video) now library.resolver.zone))) = none)
      (added' : FilesAdded part (IsThumbnailPlace place)
        (part.set ((part.get between).put (entryAt (place library.resolver.authoritative)
          (nextName^[n] (canonicalName (mediaKindOf video) now library.resolver.zone)))
            (.file content)) between) after) :
      Ends library part place now before (.save file video) (.ok lines) after
  | deleted (lines : List String) {picture : Picture} {between after : W}
      (added : FilesAdded part (IsThumbnailPlace place) before between)
      (isListed : library.IsListed place (part.get before) (part.get between) picture)
      (erased : after = part.set ((part.get between).erase
          (entryAt (place picture.file.location) picture.file.name)) between ∨
        ∃ own : StoredFile, own.IsThumbnailIn place (part.get between) ∧
          after = part.set (((part.get between).erase
            (entryAt (place picture.file.location) picture.file.name)).erase
              (entryAt (place .internal) own.name)) between) :
      Ends library part place now before (.delete picture.name) (.ok lines) after

private theorem unloaded : ({} : Catalog).listing = .unloaded := rfl

section Commands

variable {library : Library (StateM W)} {now : Instant}
  (lodges : library.resolver.LodgesIn part place (part.get w))
  (distinct : (part.get w).Distinct)
include lodges distinct

/-- A picture that is found is listed, and goes by the name that was asked for. -/
theorem find_lodged (name : String) :
    (∃ e catalog after, stepped (find library name) {} w = ((.error e, catalog), after) ∧
      FilesAdded part (IsThumbnailPlace place) w after) ∨
    ∃ picture pictures catalog after,
      stepped (find library name) {} w = ((.ok picture, catalog), after) ∧
      FilesAdded part (IsThumbnailPlace place) w after ∧ catalog.listing = .loaded pictures ∧
      library.IsListed place (part.get w) (part.get after) picture ∧ picture.name = name := by
  rw [find, stepped_bind, stepped_inLibrary, Library.find?, performed_bind]
  rcases list_lodged lodges distinct unloaded with
    ⟨e, catalog, after, failed, added⟩ |
    ⟨pictures, catalog, after, answered, added, loaded, areListed⟩
  · rw [failed]
    exact Or.inl ⟨_, _, _, rfl, added⟩
  · rw [answered]
    dsimp only
    have ended : performed (pure (pictures.find? (·.name = name)) :
        Action (StateM W) (Option Picture)) catalog after =
        ((.ok (pictures.find? (·.name = name)), catalog), after) := rfl
    rw [ended]
    cases found : pictures.find? (·.name = name) with
    | none => exact Or.inl ⟨_, _, _, rfl, added⟩
    | some picture =>
      exact Or.inr ⟨picture, pictures, catalog, after, rfl, added, loaded,
        areListed picture (List.mem_of_find?_eq_some found), by simpa using List.find?_some found⟩

theorem list_ends : ∃ answer catalog after,
    stepped (Command.list.execute library) {} w = ((answer, catalog), after) ∧
      Ends library part place now w .list answer after := by
  rw [Command.execute, stepped_bind, stepped_inLibrary]
  rcases list_lodged lodges distinct unloaded with
    ⟨e, catalog, after, failed, added⟩ | ⟨pictures, catalog, after, answered, added, -⟩
  · rw [failed]
    exact ⟨_, _, _, rfl, .failed _ _ added⟩
  · rw [answered]
    exact ⟨_, _, _, rfl, .listed _ added⟩

theorem check_ends : ∃ answer catalog after,
    stepped (Command.check.execute library) {} w = ((answer, catalog), after) ∧
      Ends library part place now w .check answer after := by
  rw [Command.execute, stepped_bind, stepped_inLibrary, checkLast, performed_bind]
  rcases list_lodged lodges distinct unloaded with
    ⟨e, catalog, after, failed, added⟩ |
    ⟨pictures, catalog, after, answered, added, loaded, areListed⟩
  · rw [failed]
    exact ⟨_, _, _, rfl, .failed _ _ added⟩
  · rw [answered]
    dsimp only
    have pruned := checkLast_lodged (lodges.keep added.gains.sameWays.1) loaded fun picture member =>
      ⟨(areListed picture member).location, (areListed picture member).stood.gain added.gains⟩
    rw [checkLast, performed_bind, performed_list_of_loaded loaded] at pruned
    dsimp only at pruned
    generalize performed (library.prune pictures.length) catalog after = ran at pruned ⊢
    obtain ⟨⟨e | last, listed⟩, last'⟩ := ran
    · obtain rfl : last' = after := pruned
      exact ⟨_, _, _, rfl, .failed _ _ added⟩
    · obtain rfl : last' = after := pruned
      cases last with
      | none => exact ⟨_, _, _, rfl, .checked _ added⟩
      | some last => exact ⟨_, _, _, rfl, .checked _ added⟩

theorem url_ends (name : String) (thumbnail : Bool) : ∃ answer catalog after,
    stepped ((Command.url name thumbnail).execute library) {} w = ((answer, catalog), after) ∧
      Ends library part place now w (.url name thumbnail) answer after := by
  rw [Command.execute]
  rcases find_lodged lodges distinct name with
    ⟨e, catalog, after, failed, added⟩ |
    ⟨picture, pictures, catalog, after, found, added, -, isListed, rfl⟩
  · exact ⟨_, _, _, stepped_bind_error failed _, .failed _ _ added⟩
  · rw [stepped_bind_ok found]
    -- what follows only reads
    have lodges' := lodges.keep added.gains.sameWays.1
    cases thumbnail with
    | false =>
      have quiet := readableUrl_lodged lodges' picture.file
      rw [if_neg (by simp), stepped_bind, stepped_inLibrary, pictureUrl, performed_outside]
      generalize outcome (library.resolver.readableUrl picture.file) after = ran at quiet ⊢
      obtain ⟨e | address, last⟩ := ran
      · obtain rfl : last = after := quiet
        exact ⟨_, _, _, rfl, .failed _ _ added⟩
      · obtain rfl : last = after := quiet
        exact ⟨_, _, _, rfl, .shown _ _ added isListed⟩
    | true =>
      rw [if_pos rfl, stepped_bind, stepped_inLibrary, thumbnailUrl]
      cases picture.thumbnail with
      | none => exact ⟨_, _, _, rfl, .shown _ _ added isListed⟩
      | some own =>
        dsimp only
        cases library.resolver.nativeUrl own with
        | some address => exact ⟨_, _, _, rfl, .shown _ _ added isListed⟩
        | none =>
          have quiet := inlineUrl_lodged lodges' own
          dsimp only
          rw [performed_bind, performed_outside]
          generalize outcome (library.resolver.inlineUrl own) after = ran at quiet ⊢
          obtain ⟨e | address, last⟩ := ran
          · obtain rfl : last = after := quiet
            exact ⟨_, _, _, rfl, .failed _ _ added⟩
          · obtain rfl : last = after := quiet
            exact ⟨_, _, _, rfl, .shown _ _ added isListed⟩

theorem delete_ends (name : String) : ∃ answer catalog after,
    stepped ((Command.delete name).execute library) {} w = ((answer, catalog), after) ∧
      Ends library part place now w (.delete name) answer after := by
  rw [Command.execute]
  rcases find_lodged lodges distinct name with
    ⟨e, catalog, after, failed, added⟩ |
    ⟨picture, pictures, catalog, after, found, added, loaded, isListed, rfl⟩
  · exact ⟨_, _, _, stepped_bind_error failed _, .failed _ _ added⟩
  · rw [stepped_bind_ok found, stepped_bind, stepped_inLibrary]
    rcases delete_lodged (lodges.keep added.gains.sameWays.1) loaded isListed
      (isListed.stood.gain added.gains) with ⟨e, failed⟩ | ⟨listed, last, done, erased⟩
    · rw [failed]
      exact ⟨_, _, _, rfl, .failed _ _ added⟩
    · rw [done]
      exact ⟨_, _, _, rfl, .deleted _ added isListed erased⟩

section Dated

-- the clock tells one time all along, under which every name that is tried for a picture has a time
variable (calm : library.codec.Answers)
  (tells : ∀ after, FilesAdded part (IsThumbnailPlace place) w after →
    library.clock.run after = (now, after))
  (reads : ∀ file, (outcome (library.disk.read file) w).2 = w)
  (dated : ∀ kind n between, FilesAdded part (IsThumbnailPlace place) w between →
    (∀ m < n, (part.get between).at? (entryAt (place library.resolver.authoritative)
      (nextName^[m] (canonicalName kind now library.resolver.zone))) ≠ none) →
    ∃ time, captureTime (nextName^[n] (canonicalName kind now library.resolver.zone))
      library.resolver.zone = some time)
include calm tells reads dated

/-- A picture that was saved is a new file; what could keep it out of the list is ruled out. -/
theorem save_ends (file : String) (video : Bool) : ∃ answer catalog after,
    stepped ((Command.save file video).execute library) {} w = ((answer, catalog), after) ∧
      Ends library part place now w (.save file video) answer after := by
  have got : stepped (ExceptT.lift (StateT.lift (library.disk.read file).run) :
      Step (StateM W) _) {} w = ((.ok (outcome (library.disk.read file) w).1, {}), w) := by
    have same := reads file
    generalize ran : outcome (library.disk.read file) w = answered at same
    obtain ⟨answer, after⟩ := answered
    obtain rfl : after = w := same
    exact congrArg (fun ended : _ × W => ((Except.ok ended.1, ({} : Catalog)), ended.2)) ran
  rw [Command.execute, stepped_bind_ok got]
  cases (outcome (library.disk.read file) w).1 with
  | error e => exact ⟨_, _, _, rfl, .failed _ _ (.refl _ _ _)⟩
  | ok content =>
    dsimp only
    rw [stepped_bind, stepped_inLibrary, ← mediaKindOf, performed_save]
    rcases list_lodged lodges distinct unloaded with
      ⟨e, catalog, after, failed, added⟩ | ⟨pictures, catalog, between, answered, added, -, -⟩
    · rw [failed]
      exact ⟨_, _, _, rfl, .failed _ _ added⟩
    · rw [answered]
      dsimp only
      rcases store_lodged (lodges.keep added.gains.sameWays.1) calm (tells between added)
        (oriented library.codec content (mediaKindOf video)) (mediaKindOf video) rfl
        (fun n => dated _ n between added) with
        ⟨e, failed⟩ | ⟨n, picture, after, done, nothing, added'⟩
      · rw [failed]
        exact ⟨_, _, _, rfl, .failed _ _ added⟩
      · rw [done]
        exact ⟨_, _, _, rfl, .saved _ _ _ added nothing added'⟩

/-- Every command but the one that copies pictures out ends in one of these ways. -/
theorem execute_ends (command : Command) (stays : ∀ name target, command ≠ .copyOut name target) :
    ∃ answer catalog after, stepped (command.execute library) {} w = ((answer, catalog), after) ∧
      Ends library part place now w command answer after := by
  cases command with
  | list => exact list_ends lodges distinct
  | save file video => exact save_ends lodges distinct calm tells reads dated file video
  | delete name => exact delete_ends lodges distinct name
  | copyOut name target => exact absurd rfl (stays name target)
  | check => exact check_ends lodges distinct
  | url name thumbnail => exact url_ends lodges distinct name thumbnail

end Dated

end Commands

/-! ### The time of a new picture -/

/-- The names of all entries of a tree. -/
def entryNames (tree : FileTree) : List String :=
  tree.nodes.filterMap fun entry => entry.1.getLast?.bind EntryName.text?

theorem mem_entryNames {tree : FileTree} {home : TreeLocation} {name : String}
    (standing : tree.at? (entryAt home name) ≠ none) : name ∈ entryNames tree := by
  rw [at?_of_ne_nil _ (entryAt_ne_nil _ _)] at standing
  obtain ⟨node, found⟩ := Option.ne_none_iff_exists'.mp standing
  refine List.mem_filterMap.mpr ⟨_, mem_of_lookup found, ?_⟩
  rw [entryAt, List.getLast?_concat]
  exact EntryName.text?_ofText name

/-- Thumbnails that are added take no name from a picture. -/
theorem standing_of_gains {tree other : FileTree}
    (gains : tree.Gains (IsThumbnailPlace place) other) {home : TreeLocation} {name : String}
    (primary : isThumbnailName name = false) (standing : other.at? (entryAt home name) ≠ none) :
    tree.at? (entryAt home name) ≠ none := by
  obtain ⟨node, found⟩ := Option.ne_none_iff_exists'.mp standing
  rcases gains.new _ _ found with old | ⟨-, thumbnail, named, same⟩
  · simp [old]
  · rw [← (entryAt_inj same).2, primary] at named
    cases named

/-- Before the year 9000 a new picture has a time, whatever stands in its directory: no tree has so
many entries that its index leads out of the calendar. -/
theorem exists_captureTime_of_taken {tree other : FileTree}
    (gains : tree.Gains (IsThumbnailPlace place) other) {now : Instant} {zone : Zone}
    (early : (namingClock now zone).date.year < 9000)
    (few : tree.nodes.length < 2 * 10 ^ 12) (kind : MediaKind) {home : TreeLocation} {n : Nat}
    (taken : ∀ m < n,
      other.at? (entryAt home (nextName^[m] (canonicalName kind now zone))) ≠ none) :
    ∃ time, captureTime (nextName^[n] (canonicalName kind now zone)) zone = some time := by
  refine exists_captureTime_iterate kind early fun present => ?_
  have years : InFourDigitYears (namingClock now zone) := ⟨present, by omega⟩
  have entries : (entryNames tree).length ≤ tree.nodes.length := List.length_filterMap_le _ _
  have room : (entryNames tree).length < Text.maxWord64 := by
    have : 2 * (10 : Nat) ^ 12 ≤ Text.maxWord64 := by decide
    omega
  have near := le_length_of_taken years room fun m before =>
    mem_entryNames (standing_of_gains gains (not_thumbnail_iterate kind now zone m)
      (taken m before))
  omega

end CameraRoll.CommandLine
