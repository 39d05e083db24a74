import CameraRoll.Proofs.CommandLine.Commands
import CameraRoll.Proofs.CommandLine.Start

/-!
What a run of the program does to files. Main statement: `serve_effect`, by which a run that has
nothing to move touches no file but those its command is about, and thumbnails inside.
-/

namespace CameraRoll

open CameraRoll.Calendar CameraRoll.Naming FileTree Library

/-! ### Places of files -/

namespace FileTree

/-- The location is that of a name directly in the directory at a path. -/
def IsEntry (tree : FileTree) (root name : String) (location : TreeLocation) : Prop :=
  ∃ place, tree.Opens root place ∧ location = entryAt place name

/-- A path leads to what is directly in the directory at another path. -/
def LeadsInto (tree : FileTree) (path root : String) : Prop :=
  ∃ place entry, tree.Opens root place ∧ tree.locate true path = .ok (place ++ [entry])

end FileTree

namespace LocalHost

/-- Where pictures are: outside if the host has a directory there. -/
def homePath (host : LocalHost) (tree : FileTree) : String :=
  (host.externalPath? tree).getD host.internalPath

/-- A place of a thumbnail: inside, under a name that says so. -/
def IsThumbnailEntry (host : LocalHost) (tree : FileTree) (location : TreeLocation) : Prop :=
  ∃ name, isThumbnailName name = true ∧ tree.IsEntry host.internalPath name location

/-- Names of pictures: outside those by kind and time, inside all but thumbnails'. -/
def isPrimaryName (host : LocalHost) (tree : FileTree) (name : String) : Bool :=
  if (host.externalPath? tree).isSome then (kindOf name).isPrimary && isStamped name
  else !isThumbnailName name

/-- A file that is listed: it stands where pictures are and has a picture's name. -/
structure Lists (host : LocalHost) (tree : FileTree) (name : String) (location : TreeLocation) :
    Prop where
  entry : tree.IsEntry (host.homePath tree) name location
  stands : ∃ content, tree.at? location = some (.file content)
  primary : host.isPrimaryName tree name = true

/-- The name of a new picture is a picture's. -/
theorem isPrimaryName_iterate (host : LocalHost) (tree : FileTree) (kind : MediaKind)
    {now : Instant} {zone : Zone}
    (years : InFourDigitYears (now.wallClock (zone.offsetAt now))) (n : Nat) :
    host.isPrimaryName tree (nextName^[n] (canonicalName kind now zone)) = true := by
  obtain ⟨stamped, primary, picture⟩ := isPrimary_iterate_nextName kind
    (by rwa [namingClock_of_years years]) n
  simp only [isPrimaryName, stamped, primary, picture, Bool.and_self, Bool.not_false, ite_self]

end LocalHost

namespace Resolver.Occupies

variable {W : Type} {part : Part W FileTree} {resolver : Resolver (StateM W)} {host : LocalHost}
  {place : Location → TreeLocation} {tree : FileTree}
  (occupies : resolver.Occupies part host place tree)
include occupies

theorem home : tree.Opens (host.homePath tree) (place resolver.authoritative) := by
  have same := occupies.hasExternal
  unfold authoritative LocalHost.homePath
  cases found : host.externalPath? tree with
  | none =>
    rw [found] at same
    rw [if_neg (by simp [same])]
    exact occupies.internal
  | some path =>
    rw [found] at same
    rw [if_pos (by simp [same])]
    exact occupies.external path found

theorem isThumbnailEntry {location : TreeLocation} (spot : IsThumbnailPlace place location) :
    host.IsThumbnailEntry tree location := by
  obtain ⟨name, named, rfl⟩ := spot
  exact ⟨name, named, place .internal, occupies.internal, rfl⟩

theorem lists {library : Library (StateM W)} (same : library.resolver = resolver)
    {after : FileTree} {picture : Picture} (isListed : library.IsListed place tree after picture) :
    host.Lists tree picture.file.name
      (entryAt (place picture.file.location) picture.file.name) := by
  subst same
  refine ⟨⟨_, ?_, rfl⟩, isListed.stood, ?_⟩
  · rw [isListed.location]
    exact occupies.home
  · rw [LocalHost.isPrimaryName, ← occupies.hasExternal]
    exact isListed.primary

end Resolver.Occupies

/-! ### Effects -/

namespace CommandLine

/-- What a run does to files, by its command and its exit status. The first tree has the private
directory already. -/
inductive Effect (host : LocalHost) (now : Instant) (zone : Zone) (before after : FileTree) :
    Command → UInt8 → Prop
  /-- A run that fails adds thumbnails at most. -/
  | failed (command : Command)
      (changes : before.Changes (fun _ => False) (host.IsThumbnailEntry before) after) :
      Effect host now zone before after command 1
  | listed (changes : before.Changes (fun _ => False) (host.IsThumbnailEntry before) after) :
      Effect host now zone before after .list 0
  | checked (changes : before.Changes (fun _ => False) (host.IsThumbnailEntry before) after) :
      Effect host now zone before after .check 0
  | shown {name : String} {location : TreeLocation} (thumbnail : Bool)
      (lists : host.Lists before name location)
      (changes : before.Changes (fun _ => False) (host.IsThumbnailEntry before) after) :
      Effect host now zone before after (.url name thumbnail) 0
  /-- A picture that was saved is a new file with a picture's name where pictures are. No name from
  before the year 0 is stamped. -/
  | saved {location : TreeLocation} {content : ByteArray} {n : Nat} (file : String) (video : Bool)
      (entry : before.IsEntry (host.homePath before)
        (nextName^[n] (canonicalName (mediaKindOf video) now zone)) location)
      (primary : 0 ≤ (now.wallClock (zone.offsetAt now)).date.year →
        host.isPrimaryName before (nextName^[n] (canonicalName (mediaKindOf video) now zone)) = true)
      (nothing : before.at? location = none)
      (stands : after.at? location = some (.file content))
      (changes : before.Changes (fun _ => False)
        (fun spot => host.IsThumbnailEntry before spot ∨ spot = location) after) :
      Effect host now zone before after (.save file video) 0
  /-- A picture that was deleted was one of that name, and at most one thumbnail went with it. -/
  | deleted {name : String} {location : TreeLocation} (own : Option TreeLocation)
      (lists : host.Lists before name location) (gone : after.at? location = none)
      (thumbnail : ∀ spot, own = some spot → host.IsThumbnailEntry before spot)
      (changes : before.Changes (fun spot => spot = location ∨ own = some spot)
        (host.IsThumbnailEntry before) after) :
      Effect host now zone before after (.delete name) 0

/-- The picture that a command asks for. -/
def Command.picture? : Command → Option String
  | .delete name | .copyOut name _ | .url name _ => some name
  | _ => none

/-- The exit status for an answer. -/
def statusOf {ε α : Type} : Except ε α → UInt8
  | .ok _ => 0
  | .error _ => 1

namespace Effect

variable {W : Type} {part : Part W FileTree} {library : Library (StateM W)} {host : LocalHost}
  {place : Location → TreeLocation} {now : Instant} {w after : W} {command : Command}
  {answer : Except CommandError (List String)}

theorem of_ends (occupies : library.resolver.Occupies part host place (part.get w))
    (ends : Ends library part place now w command answer after)
    (early : (now.wallClock (library.resolver.zone.offsetAt now)).date.year < 9000) :
    Effect host now library.resolver.zone (part.get w) (part.get after) command
      (statusOf answer) := by
  have thumbnails {other : W} (added : FilesAdded part (IsThumbnailPlace place) w other)
      (goes : TreeLocation → Prop) :
      (part.get w).Changes goes (host.IsThumbnailEntry (part.get w)) (part.get other) :=
    added.gains.changes.mono (fun _ => id) fun _ => occupies.isThumbnailEntry
  cases ends with
  | failed command e added => exact .failed command (thumbnails added _)
  | listed lines added => exact .listed (thumbnails added _)
  | checked lines added => exact .checked (thumbnails added _)
  | shown thumbnail lines added isListed =>
    exact .shown thumbnail (occupies.lists rfl isListed) (thumbnails added _)
  | @saved file video lines n content between after added nothing added' =>
    have first := added'.gains
    rw [part.get_set] at first
    have stored := first.kept _ (.file content) ((at?_put _ (entryAt_ne_nil _ _) _ _).trans
      (if_pos rfl))
    refine .saved file video ⟨_, occupies.home, rfl⟩
      (fun present => host.isPrimaryName_iterate _ _ ⟨present, by omega⟩ n)
      (added.gains.nothing nothing) stored ?_
    -- thumbnails of the old pictures, the new picture, and its own thumbnail
    refine ((thumbnails added _).mono (fun _ => id) fun _ => Or.inl).trans
      (Changes.trans (Gains.put nothing (Or.inr rfl) content).changes ?_)
    exact first.changes.mono (fun _ => id) fun _ spot => Or.inl (occupies.isThumbnailEntry spot)
  | @deleted lines picture between after added isListed erased =>
    have lists := occupies.lists rfl isListed
    obtain ⟨content, standing⟩ := isListed.stood.gain added.gains
    have below := entryAt_ne_nil (place picture.file.location) picture.file.name
    rcases erased with rfl | ⟨own, isOwn, rfl⟩
    · rw [part.get_set]
      refine .deleted none lists ?_ (fun spot none => by cases none) ?_
      · rw [at?_erase _ below, if_pos rfl]
      · exact (thumbnails added _).trans (.erase standing (Or.inl rfl))
    · obtain ⟨bytes, standing'⟩ := isOwn.stands
      rw [isOwn.inside] at standing'
      have spot : IsThumbnailPlace place (entryAt (place .internal) own.name) :=
        ⟨own.name, isOwn.named, rfl⟩
      have apart : entryAt (place .internal) own.name ≠
          entryAt (place picture.file.location) picture.file.name :=
        fun same => isListed.apart (same ▸ spot)
      rw [part.get_set]
      -- the thumbnail stands there until it goes itself
      have still : ((part.get between).erase (entryAt (place picture.file.location)
          picture.file.name)).at? (entryAt (place .internal) own.name) = some (.file bytes) := by
        rw [at?_erase _ below, if_neg apart, standing']
      refine .deleted (some (entryAt (place .internal) own.name)) lists ?_
        (fun other same => by cases same; exact occupies.isThumbnailEntry spot) ?_
      · rw [at?_erase _ (entryAt_ne_nil _ _), if_neg apart.symm, at?_erase _ below, if_pos rfl]
      · exact (thumbnails added _).trans (Changes.trans (.erase standing (Or.inl rfl))
          (.erase still (Or.inr rfl)))

/-- A command that asks for a picture that is not there fails. -/
theorem status_of_unlisted {zone : Zone} {before after : FileTree} {status : UInt8} {name : String}
    (effect : Effect host now zone before after command status) (asks : command.picture? = some name)
    (unlisted : ∀ location, ¬ host.Lists before name location) : status = 1 := by
  cases effect with
  | failed => rfl
  | listed | checked | saved => cases asks
  | shown thumbnail lists =>
    cases asks
    exact absurd lists (unlisted _)
  | deleted own lists =>
    cases asks
    exact absurd lists (unlisted _)

/-- A path that leads into none of the directories is read as before. -/
theorem read_iff {zone : Zone} {before after : FileTree} {status : UInt8} {path : String}
    (effect : Effect host now zone before after command status)
    (apart : ¬ before.LeadsInto path host.internalPath)
    (apart' : ∀ root, host.externalPath? before = some root → ¬ before.LeadsInto path root)
    {content : ByteArray} : after.read path = .ok content ↔ before.read path = .ok content := by
  have inside {spot : TreeLocation} (located : before.locate true path = .ok spot) :
      ¬ host.IsThumbnailEntry before spot := by
    rintro ⟨name, -, place, opens, rfl⟩
    exact apart ⟨place, _, opens, located⟩
  have home {spot : TreeLocation} {name : String} (located : before.locate true path = .ok spot) :
      ¬ before.IsEntry (host.homePath before) name spot := by
    rintro ⟨place, opens, rfl⟩
    cases found : host.externalPath? before with
    | none =>
      rw [LocalHost.homePath, found] at opens
      exact apart ⟨place, _, opens, located⟩
    | some root =>
      rw [LocalHost.homePath, found] at opens
      exact apart' root found ⟨place, _, opens, located⟩
  -- what changes are entries of thumbnails, and those of the picture that is saved or deleted
  cases effect with
  | failed _ changes | listed changes | checked changes | shown _ _ changes =>
    exact changes.read_iff fun spot located => ⟨id, inside located⟩
  | saved _ _ entry _ _ _ changes =>
    refine changes.read_iff fun spot located => ⟨id, ?_⟩
    rintro (thumbnail | rfl)
    · exact inside located thumbnail
    · exact home located entry
  | deleted own lists _ thumbnail changes =>
    refine changes.read_iff fun spot located => ⟨?_, inside located⟩
    rintro (rfl | isOwn)
    · exact home located lists.entry
    · exact inside located (thumbnail spot isOwn)

end Effect

/-! ### Runs -/

/-- A platform's clocks are less than 26 hours ahead of universal time or behind it. -/
def Platform.HasClocks (platform : Platform) : Prop :=
  ∀ instant seconds, platform.offset? instant = some seconds → IsClockOffset seconds

theorem Platform.HasClocks.offsetAt_zone {platform : Platform} (clocks : platform.HasClocks)
    (zone : ConfiguredZone) (instant : Instant) :
    IsClockOffset ((zone.zone platform.offset?).offsetAt instant) := by
  have universal : IsClockOffset 0 := by
    unfold IsClockOffset
    decide
  cases zone with
  | universal => exact universal
  | system =>
    change IsClockOffset ((platform.offset? instant).getD 0)
    cases told : platform.offset? instant with
    | none => exact universal
    | some seconds => exact clocks instant seconds told

namespace Desk

variable {platform : Platform} {codec : Codec} {desk : Desk} {config : Config}
  {invocation : Invocation}

/-- What a command does in a session on a desk. -/
theorem execute_effect {library : Library (StateM Desk)} {place : Location → TreeLocation}
    {host : LocalHost} (occupies : library.resolver.Occupies treePart host place (treePart.get desk))
    (isDisk : library.disk = disk) (clocked : ∀ desk, library.clock.run desk = (desk.now, desk))
    (calm : library.codec.Answers) (distinct : (treePart.get desk).Distinct)
    (few : (treePart.get desk).nodes.length < 2 * 10 ^ 12)
    (clock : IsClockOffset (library.resolver.zone.offsetAt desk.now))
    (early : (desk.now.wallClock (library.resolver.zone.offsetAt desk.now)).date.year < 9000)
    (command : Command) (stays : ∀ name target, command ≠ .copyOut name target) :
    ∃ answer catalog after,
      stepped (command.execute library) {} desk = ((answer, catalog), after) ∧
      Effect host desk.now library.resolver.zone (treePart.get desk) (treePart.get after) command
        (statusOf answer) := by
  -- thumbnails that are added leave the clock as it is
  have tells (after : Desk) (added : FilesAdded treePart (IsThumbnailPlace place) desk after) :
      library.clock.run after = (desk.now, after) := by
    rw [clocked, added.elsewhere]
    rfl
  have reads (file : String) : (outcome (library.disk.read file) desk).2 = desk := by
    rw [isDisk, outcome_read]
  obtain ⟨answer, catalog, after, ran, ends⟩ := execute_ends occupies.lodges distinct calm tells
    reads (fun kind n between added taken =>
      exists_captureTime_of_taken added.gains (year_namingClock_lt clock early) few kind taken) command stays
  exact ⟨answer, catalog, after, ran, Effect.of_ends occupies ends early⟩

/-- What is said at the end of a run leaves the tree as it is. -/
theorem serve_run {arguments : List String} {answer : Except CommandError (List String)}
    {between : Desk}
    (asked : Invocation.ofArguments arguments (platform.environment.lookup "SHUTTER_CONFIG") =
      .ok invocation)
    (ran : outcome ((machineOn platform codec).run invocation) desk = (answer.map some, between)) :
    ∃ after : Desk, after.tree = between.tree ∧
      ((machineOn platform codec).serve arguments).run desk = (statusOf answer, after) := by
  let machine := machineOn platform codec
  have asked : Invocation.ofArguments arguments
    (machine.platform.environment.lookup "SHUTTER_CONFIG") = .ok invocation := asked
  rw [Machine.serve, asked]
  dsimp only
  rw [StateT.run_bind, run_run, ran]
  cases answer with
  | error e => exact ⟨((machine.complain (Machine.errorText e.message)).run between).2, rfl, rfl⟩
  | ok lines =>
    exact ⟨((machine.say (String.join (lines.map (· ++ "\n")))).run between).2, rfl, rfl⟩

section Run

variable (staying : ∀ name target, invocation.command ≠ .copyOut name target)
  (configured : (outcome ((machineOn platform codec).config invocation) desk).1 = .ok config)
  (calm : codec.Answers) (rooted : desk.tree.Rooted) (distinct : desk.tree.Distinct)
  (few : desk.tree.nodes.length < 10 ^ 12)
  (short : (Path.parts config.internalPath).length < 10 ^ 12)
  (clocks : platform.HasClocks)
  (early : (desk.now.wallClock
    ((config.zone.zone platform.offset?).offsetAt desk.now)).date.year < 9000)
  (quiet : SettingsFile.sees desk.tree config.settingsPath Settings.consolidatedKey = true ∨
    config.host.externalPath? (desk.tree.withDirectory config.internalPath) = none)
include staying configured calm rooted distinct few short clocks early quiet

/-- A run starts a session, which makes the private directory at most, and does its command. -/
theorem run_effect : ∃ (answer : Except CommandError (List String)) (after : Desk),
    outcome ((machineOn platform codec).run invocation) desk = (answer.map some, after) ∧
      Effect config.host desk.now (config.zone.zone platform.offset?)
        (desk.tree.withDirectory config.internalPath) after.tree invocation.command
        (statusOf answer) := by
  obtain ⟨configured, faultless⟩ := config_valid invocation configured
  obtain ⟨paved, room⟩ := paved_withDirectory desk.tree config.internalPath
  have quiet := quiet.imp_left fun seen => SettingsFile.sees_of_paved paved seen
  rw [Machine.run, outcome_bind_ok configured]
  rcases start_desk faultless rooted quiet invocation.agreed with
    ⟨e, failed⟩ | ⟨resolver, place, zoned, occupies, ready⟩
  · rw [outcome_bind_error failed]
    exact ⟨.error e, _, rfl, .failed _ (.refl _ _ _)⟩
  · rw [outcome_bind_ok ready]
    generalize isReady : treePart.set (desk.tree.withDirectory config.internalPath) desk = between
    have tree : treePart.get between = desk.tree.withDirectory config.internalPath := by
      rw [← isReady, treePart.get_set]
    have now : between.now = desk.now := by rw [← isReady]; rfl
    have clock := clocks.offsetAt_zone config.zone desk.now
    rw [← tree] at occupies room ⊢
    rw [← zoned] at clock early ⊢
    rw [← now] at clock early ⊢
    have distinct : (treePart.get between).Distinct := tree ▸ paved.distinct distinct
    obtain ⟨answer, catalog, after, ran, effect⟩ := @execute_effect between
      ⟨resolver, codec, config.thumbnailWidth, (machineOn platform codec).clock, disk⟩ place
      config.host occupies rfl (fun _ => rfl) calm distinct (by omega) clock early
      invocation.command staying
    exact ⟨answer, after, congrArg (fun ended : (Except CommandError (List String) × Catalog) × Desk =>
      (ended.1.1.map some, ended.2)) ran, effect⟩

/-- A run with any command but the one that copies pictures out, in a library that has nothing to
move: no file goes, and none comes, but those that its effect names; the settings are as before. The
probe for an external location sees the private directory already. -/
theorem serve_effect {arguments : List String}
    (asked : Invocation.ofArguments arguments (platform.environment.lookup "SHUTTER_CONFIG") =
      .ok invocation)
    (apart : ¬ (desk.tree.withDirectory config.internalPath).LeadsInto config.settingsPath
      config.internalPath)
    (apart' : ∀ root,
      config.host.externalPath? (desk.tree.withDirectory config.internalPath) = some root →
      ¬ (desk.tree.withDirectory config.internalPath).LeadsInto config.settingsPath root) :
    ∃ (status : UInt8) (after : Desk),
      ((machineOn platform codec).serve arguments).run desk = (status, after) ∧
      (∀ location content,
        (desk.tree.withDirectory config.internalPath).at? location = some (.file content) ↔
          desk.tree.at? location = some (.file content)) ∧
      Effect config.host desk.now (config.zone.zone platform.offset?)
        (desk.tree.withDirectory config.internalPath) after.tree invocation.command status ∧
      (∀ name, invocation.command.picture? = some name →
        (∀ location, ¬ config.host.Lists (desk.tree.withDirectory config.internalPath) name
          location) → status = 1) ∧
      (∀ content, desk.tree.read config.settingsPath = .ok content →
        after.tree.read config.settingsPath = .ok content) ∧
      ∀ content, after.tree.read config.settingsPath = .ok content ↔
        (desk.tree.withDirectory config.internalPath).read config.settingsPath = .ok content := by
  obtain ⟨answer, between, ran, effect⟩ := run_effect staying configured calm rooted distinct few
    short clocks early quiet
  obtain ⟨paved, -⟩ := paved_withDirectory desk.tree config.internalPath
  have settings (content : ByteArray) : between.tree.read config.settingsPath = .ok content ↔ _ :=
    effect.read_iff apart apart'
  obtain ⟨after, same, served⟩ := serve_run asked ran
  rw [← same] at effect settings
  exact ⟨statusOf answer, after, served, fun location content => paved.file_iff, effect,
    fun name asks unlisted => effect.status_of_unlisted asks unlisted,
    fun content held => (settings content).mpr (paved.read held), settings⟩

end Run

/-! ### A run -/

/-- A platform that knows no user's files, and whose clocks are five hours behind. -/
def westward : Platform := ⟨[], ⟨none, "/tmp"⟩, fun _ => some (-18000)⟩

def tidyConfig : Config := Config.defaults westward.places

/-- A picture taken at noon, where clocks were five hours behind. -/
def tidyPicture : Picture :=
  ⟨⟨.internal, "IMG_20240101_120000.jpg", 1⟩,
    some ⟨.internal, "thumb-IMG_20240101_120000.jpg", 1⟩, .image,
    ⟨⟨1704110400 * second⟩, -18000⟩⟩

-- the directory of the program's files, and the one for pictures in it
def programPlace : TreeLocation := entryAt [EntryName.ofText "tmp"] "shutter"

def tidyPlace (name : String) : TreeLocation := entryAt (entryAt programPlace "internal") name

/-- A picture inside with its thumbnail, and no settings. -/
def tidyTree : FileTree :=
  ((((({} : FileTree).put [EntryName.ofText "tmp"] .directory).put programPlace .directory).put
    (entryAt programPlace "internal") .directory).put
      (tidyPlace "IMG_20240101_120000.jpg") (.file ⟨#[1]⟩)).put
        (tidyPlace "thumb-IMG_20240101_120000.jpg") (.file ⟨#[2]⟩)

/-- A codec of images that finds none it can decode. -/
def stillCodec : Codec where
  supports kind := kind = .image
  thumbnail _ _ _ := .refused .undecodable
  orient image := .ok image

theorem tidyTree_rooted : tidyTree.Rooted := by
  have empty : ({} : FileTree).Rooted :=
    ⟨rfl, fun location entry present => absurd (at?_of_ne_nil _ (by simp)) present⟩
  have grown {tree : FileTree} (rooted : tree.Rooted) (place : TreeLocation) (name : String)
      (directory : tree.at? place = some .directory) (free : tree.at? (entryAt place name) = none)
      (node : Node) : (tree.put (entryAt place name) node).Rooted :=
    rooted.put directory (IsFree.noDirectory (Or.inl free)) node
  have top := grown empty [] "tmp" rfl rfl .directory
  have program := grown top [EntryName.ofText "tmp"] "shutter" rfl rfl .directory
  have inside := grown program programPlace "internal" rfl rfl .directory
  have picture := grown inside (entryAt programPlace "internal") "IMG_20240101_120000.jpg" rfl rfl
    (.file ⟨#[1]⟩)
  exact grown picture (entryAt programPlace "internal") "thumb-IMG_20240101_120000.jpg" rfl rfl
    (.file ⟨#[2]⟩)

theorem tidyTree_distinct : tidyTree.Distinct := by
  have empty : ({} : FileTree).Distinct := List.nodup_nil
  exact ((((empty.put _ _).put _ _).put _ _).put _ _).put _ _

/-- The directory of the program's files. -/
theorem opens_program : tidyTree.Opens (Path.join "/tmp" "shutter") programPlace := by
  have top : tidyTree.Opens "/tmp" [EntryName.ofText "tmp"] :=
    ⟨tidyTree.locate_top "tmp" ⟨⟨by decide, by decide, by decide⟩, by decide, by decide⟩
      (by decide) rfl, rfl⟩
  exact top.entry ⟨by decide, by decide⟩ rfl

theorem opens_tidy : tidyTree.Opens tidyConfig.internalPath (entryAt programPlace "internal") := by
  have opens : tidyTree.Opens (Path.join (Path.join "/tmp" "shutter") "internal") _ :=
    opens_program.entry ⟨by decide, by decide⟩ rfl
  exact opens

theorem locate_settings :
    tidyTree.locate true tidyConfig.settingsPath = .ok (entryAt programPlace "settings.json") :=
  opens_program.locate_entry ⟨by decide, by decide⟩ fun _ _ link => by cases link

theorem withDirectory_tidy : tidyTree.withDirectory tidyConfig.internalPath = tidyTree := by
  rw [withDirectory, inspect_of_locate opens_tidy.located, opens_tidy.directory]

theorem fault?_tidy : tidyConfig.fault? = none := by decide +kernel

theorem config_tidy (command : Command) :
    outcome ((machineOn westward stillCodec).config ⟨none, false, command⟩) { tree := tidyTree } =
      (.ok tidyConfig, { tree := tidyTree }) := by
  have loaded : outcome (Config.load disk westward.places none []) { tree := tidyTree } = _ :=
    Config.outcome_load_of_nowhere "/tmp" disk [] _
  have described : Config.ofValue? tidyConfig (Environment.layer []) = some tidyConfig := rfl
  rw [← show tidyConfig = Config.defaults ⟨none, "/tmp"⟩ from rfl, described] at loaded
  dsimp only at loaded
  rw [Config.validate, fault?_tidy] at loaded
  exact outcome_adapt_ok loaded _

/-- The session's resolver. -/
def tidyResolver : Resolver (StateM Desk) :=
  ⟨(DirectoryStore.operations (FileTree.disk treePart) "internal" tidyConfig.internalPath).withQuota
    tidyConfig.quota, none, .platform westward.offset?⟩

def tidyLibrary : Library (StateM Desk) :=
  ⟨tidyResolver, stillCodec, defaultThumbnailWidth, (machineOn westward stillCodec).clock, disk⟩

theorem start_tidy : outcome ((machineOn westward stillCodec).start tidyConfig false)
    { tree := tidyTree } = (.ok (.ready tidyResolver), { tree := tidyTree }) := by
  obtain ⟨absolute, settings⟩ := Config.isAbsolute_of_fault? fault?_tidy
  have directory : tidyTree.isDirectory tidyConfig.internalPath = true := by
    rw [FileTree.isDirectory, inspect_of_locate opens_tidy.located, opens_tidy.directory]
  have made : outcome ((tidyConfig.host.operations (FileTree.disk treePart)).internalStore
      tidyConfig.quota) { tree := tidyTree } = _ :=
    outcome_bind_ok (DirectoryStore.outcome_make_of_isDirectory directory absolute.internal _) _
  -- without settings no flag is set
  have flagged (key : String) : (Resolver.flagOf
      (SettingsFile.operations disk tidyConfig.settingsPath) key).run { tree := tidyTree } =
      (false, { tree := tidyTree }) := by
    have same := SettingsFile.get_congr
      (startingFrom_sameAt Desk.directory (FileTree.disk treePart) settings)
    have nothing : SettingsFile.sees tidyTree tidyConfig.settingsPath key = false := by
      rw [SettingsFile.sees, SettingsFile.membersIn, read_of_locate locate_settings]
      rfl
    exact (SettingsFile.run_flagOf same key _).trans (congrArg (·, _) nothing)
  have started := Resolver.outcome_start_of_ok (.platform westward.offset?)
    (machineOn westward stillCodec).ask made rfl flagged
  rw [← operations_startingFrom absolute Desk.directory] at started
  exact outcome_adapt_ok started _

theorem entries_tidy : outcome tidyResolver.entries { tree := tidyTree } =
    (.ok ⟨[tidyPicture.file], tidyPicture.thumbnail.toList⟩, { tree := tidyTree }) := by
  have lies := (DirectoryStore.operations_liesIn treePart "internal"
    tidyConfig.internalPath).withQuota tidyConfig.quota
  have listed : outcome tidyResolver.internal.list { tree := tidyTree } = _ :=
    lies.list { tree := tidyTree } _ opens_tidy
  have inside : outcome (tidyResolver.enumerate .internal) { tree := tidyTree } =
      (.ok [tidyPicture.file, ⟨.internal, "thumb-IMG_20240101_120000.jpg", 1⟩],
        { tree := tidyTree }) :=
    outcome_bind_ok (outcome_adapt_ok listed _) _
  have outside : outcome (tidyResolver.enumerate .external) { tree := tidyTree } =
      (.ok [], { tree := tidyTree }) := rfl
  rw [Resolver.entries, outcome_bind_ok inside, outcome_bind_ok outside]
  rfl

/-- The picture keeps its stored thumbnail. -/
theorem wrap_tidy : outcome (tidyLibrary.wrap tidyPicture.file tidyPicture.thumbnail none)
    { tree := tidyTree } = (.ok tidyPicture, { tree := tidyTree }) := by
  have dated : Picture.ofFile tidyPicture.file tidyPicture.thumbnail tidyResolver.zone =
      some tidyPicture := by decide +kernel
  have obtained : outcome (tidyLibrary.thumbnailFor tidyPicture.file tidyPicture.thumbnail none)
      { tree := tidyTree } = (.ok tidyPicture.thumbnail, { tree := tidyTree }) := rfl
  rw [wrap_eq, outcome_bind_ok obtained]
  dsimp only [tidyLibrary]
  rw [dated]
  rfl

theorem list_tidy : performed tidyLibrary.list {} { tree := tidyTree } =
    ((.ok [tidyPicture], ({} : Catalog).made [tidyPicture]), { tree := tidyTree }) := by
  have stored : outcome (storing tidyLibrary.resolver.entries) { tree := tidyTree } = _ :=
    outcome_adapt_ok entries_tidy _
  have own : tidyPicture.thumbnail.toList.find?
      (·.name = thumbnailName tidyPicture.file.name) = tidyPicture.thumbnail := by decide +kernel
  have wrapped : outcome (tidyLibrary.wrapAll tidyPicture.thumbnail.toList [tidyPicture.file])
      { tree := tidyTree } = (.ok [tidyPicture], { tree := tidyTree }) := by
    rw [wrapAll, own, outcome_bind_ok wrap_tidy]
    rfl
  have loaded : outcome tidyLibrary.loadPictures { tree := tidyTree } =
      (.ok [tidyPicture], { tree := tidyTree }) := by
    rw [loadPictures, outcome_bind_ok stored, outcome_bind_pure]
    dsimp only
    rw [wrapped]
    simp [Picture.sortByTime, Except.map]
  rw [performed_list]
  dsimp only
  rw [loaded]

/-- A file inside is taken away. -/
theorem remove_tidy {tree : FileTree}
    (opens : tree.Opens tidyConfig.internalPath (entryAt programPlace "internal"))
    {name : String} (fits : IsEntryName name) {content : ByteArray}
    (standing : tree.at? (tidyPlace name) = some (.file content)) (size : Nat) :
    outcome (tidyResolver.remove ⟨.internal, name, size⟩) { tree := tree } =
      (.ok (), { tree := tree.erase (tidyPlace name) }) := by
  have lies := DirectoryStore.operations_liesIn treePart "internal" tidyConfig.internalPath
  rcases lies.delete { tree := tree } _ name content opens standing with ⟨e, -, unfit⟩ | done
  · exact absurd fits unfit
  · exact outcome_adapt_ok done _

/-- The tree without the picture and its thumbnail. -/
def tidiedTree : FileTree :=
  (tidyTree.erase (tidyPlace "IMG_20240101_120000.jpg")).erase
    (tidyPlace "thumb-IMG_20240101_120000.jpg")

theorem execute_tidy : stepped ((Command.delete tidyPicture.name).execute tidyLibrary) {}
      { tree := tidyTree } =
    ((.ok [], (({} : Catalog).made [tidyPicture]).drop tidyPicture), { tree := tidiedTree }) := by
  have found : stepped (find tidyLibrary tidyPicture.name) {} { tree := tidyTree } =
      ((.ok tidyPicture, ({} : Catalog).made [tidyPicture]), { tree := tidyTree }) := by
    rw [find, stepped_bind, stepped_inLibrary, Library.find?, performed_bind, list_tidy]
    rfl
  -- the thumbnail still stands there when the picture is gone
  have standing : tidyTree.at? (tidyPlace "IMG_20240101_120000.jpg") = some (.file ⟨#[1]⟩) := rfl
  have standing' : (tidyTree.erase (tidyPlace "IMG_20240101_120000.jpg")).at?
      (tidyPlace "thumb-IMG_20240101_120000.jpg") = some (.file ⟨#[2]⟩) := rfl
  have opens' := opens_tidy.keep (.erase (Or.inr ⟨_, standing⟩))
  have first : outcome (tidyLibrary.resolver.remove tidyPicture.file) { tree := tidyTree } = _ :=
    remove_tidy opens_tidy ⟨by decide, by decide⟩ standing 1
  have second : outcome (tidyLibrary.resolver.remove ⟨.internal, "thumb-IMG_20240101_120000.jpg", 1⟩)
      { tree := tidyTree.erase (tidyPlace "IMG_20240101_120000.jpg") } = _ :=
    remove_tidy opens' ⟨by decide, by decide⟩ standing' 1
  have listed : (({} : Catalog).made [tidyPicture]).listing = .loaded [tidyPicture] := rfl
  rw [Command.execute, stepped_bind_ok found, stepped_bind, stepped_inLibrary,
    performed_delete listed, first]
  dsimp only [tidyPicture]
  rw [second]
  rfl

/-- A picture inside is deleted together with its thumbnail, and nothing else. -/
theorem serve_effect_tidy : ∃ after : Desk,
    ((machineOn westward stillCodec).serve ["delete", "IMG_20240101_120000.jpg"]).run
      { tree := tidyTree } = (0, after) ∧
    Effect tidyConfig.host ⟨0⟩ (.platform westward.offset?) tidyTree after.tree
      (.delete "IMG_20240101_120000.jpg") 0 ∧
    after.tree = tidiedTree := by
  have alone : tidyConfig.host.externalPath? (tidyTree.withDirectory tidyConfig.internalPath) =
      none := rfl
  have asked : Invocation.ofArguments ["delete", "IMG_20240101_120000.jpg"]
      (westward.environment.lookup "SHUTTER_CONFIG") =
        .ok ⟨none, false, .delete "IMG_20240101_120000.jpg"⟩ := by decide +kernel
  have configured := congrArg Prod.fst (config_tidy (.delete "IMG_20240101_120000.jpg"))
  have few : ({ tree := tidyTree } : Desk).tree.nodes.length < 10 ^ 12 := by decide
  have short : (Path.parts tidyConfig.internalPath).length < 10 ^ 12 := by decide
  have clocks : westward.HasClocks := by
    rintro instant seconds told
    cases told
    unfold IsClockOffset
    decide
  have early : ((⟨0⟩ : Instant).wallClock (-18000)).date.year < 9000 := by
    decide +kernel
  have apart : ¬ (tidyTree.withDirectory tidyConfig.internalPath).LeadsInto
      tidyConfig.settingsPath tidyConfig.internalPath := by
    rintro ⟨place, entry, opens, located⟩
    rw [withDirectory_tidy] at opens located
    obtain rfl := Except.ok.inj (opens_tidy.located.symm.trans opens.located)
    cases locate_settings.symm.trans located
  -- its stages: the configuration, the start of the session, and the command
  have ran : outcome ((machineOn westward stillCodec).run
      ⟨none, false, .delete "IMG_20240101_120000.jpg"⟩) { tree := tidyTree } =
      ((Except.ok [] : Except CommandError (List String)).map some, { tree := tidiedTree }) := by
    rw [Machine.run, outcome_bind_ok (config_tidy _), outcome_bind_ok start_tidy]
    exact congrArg (fun ended : (Except CommandError (List String) × Catalog) × Desk =>
      (ended.1.1.map some, ended.2)) execute_tidy
  obtain ⟨status, after, served, -, effect, -⟩ := serve_effect (fun _ _ => by simp) configured
    (fun _ _ _ => by simp [stillCodec]) tidyTree_rooted tidyTree_distinct few short clocks early
    (Or.inr alone) asked apart fun root isRoot => by cases isRoot
  have effect : Effect tidyConfig.host ⟨0⟩ (.platform westward.offset?)
    (tidyTree.withDirectory tidyConfig.internalPath) after.tree
    (.delete "IMG_20240101_120000.jpg") status := effect
  rw [withDirectory_tidy] at effect
  obtain ⟨ended, same, exits⟩ := serve_run asked ran
  cases served.symm.trans exits
  exact ⟨_, exits, effect, same⟩

end Desk

end CommandLine

end CameraRoll
