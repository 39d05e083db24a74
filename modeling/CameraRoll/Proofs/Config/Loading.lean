import CameraRoll.Config.Basic
import CameraRoll.Proofs.Config.Layers
import CameraRoll.Proofs.Store.Folder

/-!
Configurations from the file in the usual place. Main statements: `Config.overrides_of_ofValue?`, by
which the settings are those of the environment where it gives them and the defaults elsewhere, and
`Config.load_default`, by which this is the configuration over an empty file, and there is none over
a missing one. `Config.load_default_bare` has the two without any variables.
-/

namespace CameraRoll.Config

open FileTree Environment

variable {environment : List (String × String)}

/-! ### Settings from the environment -/

/-- A setting under a path of keys: what the last variable for it gives, and the default if no
variable has to do with it. -/
structure IsSetting {α : Type} (environment : List (String × String)) (path : List String)
    (read : ConfigValue → Option α) (default value : α) : Prop where
  taken : ∀ given, Gives environment path given → read given = some value
  kept : LeavesAlone environment path → value = default

/-- The settings of a configuration are the defaults, overridden by the environment. -/
structure Overrides (environment : List (String × String)) (default config : Config) : Prop where
  internalPath : IsSetting environment ["internal", "path"] textOf? default.internalPath
    config.internalPath
  quota : IsSetting environment ["internal", "quota"] (numberOf? Text.maxWord64) default.quota
    config.quota
  volumes : IsSetting environment ["volumes"] volumesOf? default.volumes config.volumes
  settingsPath : IsSetting environment ["settings_path"] textOf? default.settingsPath
    config.settingsPath
  zone : IsSetting environment ["timezone"] zoneOf? default.zone config.zone
  thumbnailWidth : IsSetting environment ["thumbnail_width"] (numberOf? maxWidth)
    default.thumbnailWidth config.thumbnailWidth

theorem entry?_of_isTable {value : ConfigValue} (table : value.IsTable) (key : String)
    (place : Nat) : entry? value key place = value.valueAt? [key] := by
  obtain ⟨entries, rfl⟩ := table
  exact ((ConfigValue.table entries).valueAt?_single key).symm

theorem isTable_of_valueAt? {value inner : ConfigValue} {key : String}
    (found : value.valueAt? [key] = some inner) : value.IsTable := by
  cases value with
  | table entries => exact ⟨entries, rfl⟩
  | _ => cases found

/-- An entry of what variables lead to is a setting. -/
theorem IsSetting.of_entryOr {α : Type} {read : ConfigValue → Option α} {default value : α}
    (front : List String) (key : String) (place : Nat)
    (absent : (layer environment).valueAt? front = none → value = default)
    (present : ∀ inner, (layer environment).valueAt? front = some inner →
      entryOr inner key place read default = some value) :
    IsSetting environment (front ++ [key]) read default value where
  taken given gives := by
    have found := layer_gives gives
    rw [ConfigValue.valueAt?_append, Option.bind_eq_some_iff] at found
    obtain ⟨inner, here, found⟩ := found
    -- in a table entries are read by their keys, not by their places
    have answered := present inner here
    rwa [entryOr, entry?_of_isTable (isTable_of_valueAt? found), found] at answered
  kept alone := by
    cases here : (layer environment).valueAt? front with
    | none => exact absent here
    | some inner =>
      -- no variable gives a list here, whose places would count
      have table := isTable_of_layer (alone.leavesOpen (List.prefix_append _ _)) here
      have nothing := layer_leaves (by simp) alone
      rw [ConfigValue.valueAt?_append, here, Option.bind_some] at nothing
      have answered := present inner here
      rw [entryOr, entry?_of_isTable table, nothing] at answered
      exact (Option.some.inj answered).symm

/-- A setting at the top. -/
theorem IsSetting.of_top {α : Type} {read : ConfigValue → Option α} {default value : α}
    {key : String} {place : Nat}
    (answered : entryOr (layer environment) key place read default = some value) :
    IsSetting environment [key] read default value :=
  of_entryOr [] key place (fun nothing => by cases nothing) fun inner here =>
    Option.some.inj here ▸ answered

theorem isSetting_internal {default : Config} {internal : String × Nat}
    (answered : entryOr (layer environment) "internal" 0 (internalOf? default)
      (default.internalPath, default.quota) = some internal) :
    IsSetting environment ["internal", "path"] textOf? default.internalPath internal.1 ∧
      IsSetting environment ["internal", "quota"] (numberOf? Text.maxWord64) default.quota
        internal.2 := by
  have table : (layer environment).IsTable := by
    obtain ⟨entries, same, -⟩ := isProper_layer environment
    exact ⟨entries, same⟩
  rw [entryOr, entry?_of_isTable table] at answered
  have absent : (layer environment).valueAt? ["internal"] = none →
      internal = (default.internalPath, default.quota) := by
    intro nothing
    rw [nothing] at answered
    exact (Option.some.inj answered).symm
  have present (inner : ConfigValue)
      (here : (layer environment).valueAt? ["internal"] = some inner) :
      entryOr inner "path" 0 textOf? default.internalPath = some internal.1 ∧
        entryOr inner "quota" 1 (numberOf? Text.maxWord64) default.quota = some internal.2 := by
    rw [here] at answered
    simp only [internalOf?] at answered
    split at answered
    · simp only [Option.bind_eq_bind, Option.bind_eq_some_iff, Option.pure_def,
        Option.some.injEq] at answered
      obtain ⟨path, isPath, quota, isQuota, rfl⟩ := answered
      exact ⟨isPath, isQuota⟩
    · cases answered
  exact ⟨.of_entryOr ["internal"] "path" 0 (fun nothing => congrArg Prod.fst (absent nothing))
      fun inner here => (present inner here).1,
    .of_entryOr ["internal"] "quota" 1 (fun nothing => congrArg Prod.snd (absent nothing))
      fun inner here => (present inner here).2⟩

theorem overrides_of_ofValue? {default config : Config}
    (described : ofValue? default (layer environment) = some config) :
    Overrides environment default config := by
  simp only [ofValue?, Option.bind_eq_bind, Option.bind_eq_some_iff, Option.pure_def,
    Option.some.injEq] at described
  obtain ⟨internal, isInternal, volumes, isVolumes, settings, isSettings, zone, isZone, width,
    isWidth, rfl⟩ := described
  obtain ⟨path, quota⟩ := isSetting_internal isInternal
  exact ⟨path, quota, .of_top isVolumes, .of_top isSettings, .of_top isZone, .of_top isWidth⟩

/-! ### The file in the usual place -/

section Load

variable {W : Type} {part : Part W FileTree} {directories : ProjectDirectories}
  (temporary : String) {w v : W}

theorem outcome_readLayer {disk : Disk (StateM W)} {path text : String} {table : ConfigValue}
    (held : outcome (disk.read path) w = (.ok text.toUTF8, w))
    (parsed : Toml.table? text = some table) :
    outcome (readLayer disk path) w = (.ok table, w) := by
  rw [readLayer, outcome_bind, outcome_liftM, run_run, held]
  dsimp only
  rw [fromUTF8?_toUTF8, Option.bind_some, parsed]
  rfl

theorem outcome_read_configFile (part : Part W FileTree) (directories : ProjectDirectories)
    (w : W) : outcome ((FileTree.disk part).read directories.configFile) w =
      ((part.get w).read directories.configFile, w) :=
  outcome_look part w (·.read directories.configFile)

theorem outcome_load_of_unreadable {reason : DiskError}
    (unreadable : (part.get w).read directories.configFile = .error reason)
    (environment : List (String × String)) :
    outcome (load (FileTree.disk part) ⟨some directories, temporary⟩ none environment) w =
      (.error .unusable, w) := by
  have read : outcome (readLayer (FileTree.disk part) directories.configFile) w =
      (.error .unusable, w) := by
    rw [readLayer, outcome_bind, outcome_liftM, run_run, outcome_read_configFile, unreadable]
    rfl
  exact outcome_bind_error read _

theorem outcome_load_of_table {text : String} {table : ConfigValue}
    (held : (part.get w).read directories.configFile = .ok text.toUTF8)
    (parsed : Toml.table? text = some table) (environment : List (String × String)) :
    let places : Places := ⟨some directories, temporary⟩
    outcome (load (FileTree.disk part) places none environment) w =
      (ofLayers (defaults places) table (layer environment), w) := by
  have read := (outcome_read_configFile part directories w).trans (congrArg (·, w) held)
  exact outcome_bind_ok (outcome_readLayer read parsed) _

/-- Where the platform has no place for a file, the configuration is that of the environment over the
defaults, whose files lie with the temporary ones. -/
theorem outcome_load_of_nowhere (disk : Disk (StateM W)) (environment : List (String × String))
    (w : W) :
    let places : Places := ⟨none, temporary⟩
    outcome (load disk places none environment) w =
      (match ofValue? (defaults places) (layer environment) with
        | some config => config.validate
        | none => .error .unusable, w) := by
  intro places
  have layered : outcome (load disk places none environment) w =
      (match ofValue? (defaults places) (ConfigValue.overlay (.table []) (layer environment)) with
        | some config => config.validate
        | none => .error .unusable, w) := rfl
  rw [layered, overlay_empty_layer]

theorem table?_empty : Toml.table? "" = some (.table []) := by
  rw [Toml.table?, show "".toList = [] from rfl]
  simp [Toml.Document.read, Toml.skipFiller, Toml.finishEntries]

/-- Without a file in the usual place there is no configuration, whatever the variables. Over an
empty file the configuration is that of the defaults overridden by the environment, which must be
valid. So both come to the same only where the environment cannot be used either way. -/
theorem load_default {reason : DiskError}
    (missing : (part.get w).read directories.configFile = .error reason)
    (empty : (part.get v).read directories.configFile = .ok ByteArray.empty)
    (environment : List (String × String)) :
    let places : Places := ⟨some directories, temporary⟩
    let loaded := outcome (load (FileTree.disk part) places none environment)
    let described := ofValue? (defaults places) (layer environment)
    loaded w = (.error .unusable, w) ∧
      loaded v = (match described with
        | some config => config.validate
        | none => .error .unusable, v) ∧
      (∀ config, described = some config → Overrides environment (defaults places) config) ∧
      ((loaded w).1 = (loaded v).1 ↔ described = none) := by
  intro places loaded described
  have unusable : loaded w = _ := outcome_load_of_unreadable temporary missing environment
  have held : (part.get v).read directories.configFile = .ok "".toUTF8 := empty
  have layered : loaded v = _ := outcome_load_of_table temporary held table?_empty environment
  rw [ofLayers, overlay_empty_layer] at layered
  refine ⟨unusable, layered, fun config => overrides_of_ofValue?, ?_⟩
  rw [unusable, layered]
  change Except.error .unusable = (match described with
    | some config => config.validate
    | none => .error .unusable) ↔ _
  cases described with
  | none => simp
  | some config =>
    -- a fault is an error of another kind
    simp only [validate, reduceCtorEq, iff_false]
    split <;> simp

end Load

/-! ### A missing and an empty file -/

/-- A tree with an empty file for the configuration. -/
def emptyConfigTree : FileTree :=
  { nodes := [(entryAt [] "config.toml", .file ByteArray.empty)] }

/-- Directories with the configuration at the top. -/
def topDirectories : ProjectDirectories := ⟨"/", "/data"⟩

def topPlaces : Places := ⟨some topDirectories, "/tmp"⟩

theorem read_top {tree : FileTree}
    (plain : ∀ target, tree.at? (entryAt [] "config.toml") ≠ some (.link target)) :
    tree.read topDirectories.configFile =
      match tree.at? (entryAt [] "config.toml") with
      | some (.file content) => .ok content
      | some .directory => .error (.other "is a directory")
      | some (.link _) | none => .error .notFound := by
  have fits : IsEntryName "config.toml" := ⟨by decide, by decide⟩
  have located : tree.locate true topDirectories.configFile = .ok (entryAt [] "config.toml") :=
    (Opens.slash tree).locate_entry fits fun _ => plain
  exact read_of_locate located

theorem read_top_missing : ({} : FileTree).read topDirectories.configFile = .error .notFound := by
  have nothing : ({} : FileTree).at? (entryAt [] "config.toml") = none := by decide
  rw [read_top (by simp [nothing]), nothing]

theorem read_top_empty : emptyConfigTree.read topDirectories.configFile = .ok ByteArray.empty := by
  have standing : emptyConfigTree.at? (entryAt [] "config.toml") =
      some (.file ByteArray.empty) := by
    simp [emptyConfigTree, at?, entryAt]
  rw [read_top (by simp [standing]), standing]

/-- Two of these variables count: they name a quota and a zone. -/
theorem load_default_quota :
    let environment := [("HOME", "/home"), ("SHUTTER_INTERNAL__QUOTA", "1024"),
      ("shutter_timezone", "utc")]
    let loaded := outcome (load (FileTree.disk (Part.whole FileTree)) topPlaces none environment)
    loaded {} = (.error .unusable, {}) ∧
      loaded emptyConfigTree = (.ok { defaults topPlaces with quota := 1024, zone := .universal },
        emptyConfigTree) := by
  intro environment loaded
  have said : layer environment = .table [("internal", .table [("quota", .integer 1024)]),
      ("timezone", .text "utc")] := by
    have home : pathOf "HOME" = none := by decide
    have quota : pathOf "SHUTTER_INTERNAL__QUOTA" = some ["internal", "quota"] := by decide
    have zone : pathOf "shutter_timezone" = some ["timezone"] := by decide
    have number : valueOf "1024" = .integer 1024 := by rfl
    have text : valueOf "utc" = .text "utc" := by rfl
    simp only [environment, layer_eq, List.foldl_cons, List.foldl_nil, lay, home, quota, zone,
      number, text]
    rfl
  have nothing : ((Part.whole FileTree).get {}).read topDirectories.configFile = .error .notFound :=
    read_top_missing
  have held : ((Part.whole FileTree).get emptyConfigTree).read topDirectories.configFile =
      .ok ByteArray.empty := read_top_empty
  obtain ⟨missing, empty, -⟩ := load_default "/tmp" nothing held environment
  rw [said] at empty
  exact ⟨missing, empty⟩

/-- Without any variables an empty file gives the defaults, and a missing one no configuration. -/
theorem load_default_bare :
    let loaded := outcome (load (FileTree.disk (Part.whole FileTree)) topPlaces none [])
    ({} : FileTree).read topDirectories.configFile = .error .notFound ∧
      emptyConfigTree.read topDirectories.configFile = .ok ByteArray.empty ∧
      (loaded {}).1 = .error .unusable ∧ (loaded emptyConfigTree).1 = .ok (defaults topPlaces) := by
  intro loaded
  have nothing : ((Part.whole FileTree).get {}).read topDirectories.configFile = .error .notFound :=
    read_top_missing
  have held : ((Part.whole FileTree).get emptyConfigTree).read topDirectories.configFile =
      .ok "".toUTF8 := read_top_empty
  have missing := outcome_load_of_unreadable "/tmp" nothing []
  have empty := outcome_load_of_table "/tmp" held table?_empty []
  have valid : ofLayers (defaults topPlaces) (.table []) (layer []) = .ok (defaults topPlaces) := by
    rfl
  exact ⟨read_top_missing, read_top_empty, congrArg Prod.fst missing,
    (congrArg Prod.fst empty).trans valid⟩

end CameraRoll.Config
