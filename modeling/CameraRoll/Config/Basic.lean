import CameraRoll.Calendar.Time
import CameraRoll.Config.Environment
import CameraRoll.Config.Error
import CameraRoll.Disk.Basic
import CameraRoll.Disk.Path
import CameraRoll.Media.Codec
import CameraRoll.Toml.Document

/-!
The configuration of a library: defaults, a file laid over them, and environment variables laid
over both.
-/

namespace CameraRoll

open CameraRoll.Text

/-- Zones that can be configured. -/
inductive ConfiguredZone where
  | system
  | universal
  deriving DecidableEq, Repr

/-- The zone of times in names, on a platform that tells its offset at an instant if it can. -/
def ConfiguredZone.zone (offset? : Calendar.Instant → Option Int) : ConfiguredZone → Calendar.Zone
  | .system => .platform offset?
  | .universal => .utc

/-- A configuration. -/
structure Config where
  internalPath : String
  /-- Most bytes that the private store may hold. -/
  quota : Nat
  /-- Identifiers and directories of the volumes. -/
  volumes : List (String × String)
  settingsPath : String
  zone : ConfiguredZone
  thumbnailWidth : Nat
  deriving DecidableEq, Repr

namespace Config

/-- Bytes that the private store may hold where nothing else is configured. -/
def defaultQuota : Nat := 768 * 1024 * 1024

def maxWidth : Nat := 0xffffffff

/-- The directories that a platform sets aside for the program. -/
structure ProjectDirectories where
  config : String
  data : String
  deriving DecidableEq, Repr

/-- The configuration file where none is asked for. -/
def ProjectDirectories.configFile (directories : ProjectDirectories) : String :=
  Path.join directories.config "config.toml"

/-- What the platform tells of directories that the program may use. -/
structure Places where
  /-- The program's own directories, if the platform knows where the user's files are. -/
  project : Option ProjectDirectories
  /-- The directory for files that need not be kept. -/
  temporary : String
  deriving DecidableEq, Repr

namespace Places

/-- The user's directories where they follow from the environment: those set for the purpose, if they
are absolute, or else the usual ones in the user's home. -/
def ofEnvironment (environment : List (String × String)) : Places where
  project := do
    let home ← (environment.lookup "HOME").filter (!·.isEmpty)
    let directory (name usual : String) :=
      ((environment.lookup name).filter Path.isAbsolute).getD (Path.join home usual)
    return ⟨Path.join (directory "XDG_CONFIG_HOME" ".config") "shutter",
      Path.join (directory "XDG_DATA_HOME" ".local/share") "shutter"⟩
  temporary := (environment.lookup "TMPDIR").getD "/tmp"

/-- The configuration file where none is asked for, if there is a place for one. -/
def configFile? (places : Places) : Option String :=
  places.project.map (·.configFile)

/-- The directory for pictures and settings. -/
def dataDirectory (places : Places) : String :=
  match places.project with
  | some directories => directories.data
  | none => Path.join places.temporary "shutter"

end Places

def defaults (places : Places) : Config where
  internalPath := Path.join places.dataDirectory "internal"
  quota := defaultQuota
  volumes := []
  settingsPath := Path.join places.dataDirectory "settings.json"
  zone := .system
  thumbnailWidth := defaultThumbnailWidth

/-- The value as a text. -/
def textOf? : ConfigValue → Option String
  | .text s => some s
  | .char c => some (String.singleton c)
  | _ => none

/-- The value as a whole number up to a limit. -/
def numberOf? (limit : Nat) : ConfigValue → Option Nat
  | .integer n => if 0 ≤ n && n ≤ limit then some n.toNat else none
  | _ => none

/-- The value as a zone. -/
def zoneOf? : ConfigValue → Option ConfiguredZone
  | .text "local" => some .system
  | .text "utc" => some .universal
  | _ => none

/-- An entry of a structured value: by its key in a table, by its place in a list. -/
def entry? (value : ConfigValue) (key : String) (place : Nat) : Option ConfigValue :=
  match value with
  | .table entries => entries.lookup key
  | .list items => items[place]?
  | _ => none

def hasEntries : ConfigValue → Bool
  | .table _ | .list _ => true
  | _ => false

/-- An entry read in a certain way, or the default if it is missing. -/
def entryOr {α : Type} (value : ConfigValue) (key : String) (place : Nat)
    (read : ConfigValue → Option α) (default : α) : Option α :=
  match entry? value key place with
  | some inner => read inner
  | none => some default

def volumeOf? (value : ConfigValue) : Option (String × String) := do
  return (← textOf? (← entry? value "id" 0), ← textOf? (← entry? value "path" 1))

def volumesOf? : ConfigValue → Option (List (String × String))
  | .list items => items.mapM volumeOf?
  | _ => none

/-- The location and quota of the private store. -/
def internalOf? (default : Config) (value : ConfigValue) : Option (String × Nat) :=
  if hasEntries value then do
    return (← entryOr value "path" 0 textOf? default.internalPath,
      ← entryOr value "quota" 1 (numberOf? maxWord64) default.quota)
  else none

/-- The configuration that a value describes; what it leaves out is taken from the defaults. -/
def ofValue? (default : Config) (value : ConfigValue) : Option Config := do
  let internal ← entryOr value "internal" 0 (internalOf? default)
    (default.internalPath, default.quota)
  return {
    internalPath := internal.1
    quota := internal.2
    volumes := ← entryOr value "volumes" 1 volumesOf? default.volumes
    settingsPath := ← entryOr value "settings_path" 2 textOf? default.settingsPath
    zone := ← entryOr value "timezone" 3 zoneOf? default.zone
    thumbnailWidth :=
      ← entryOr value "thumbnail_width" 4 (numberOf? maxWidth) default.thumbnailWidth }

/-- What is wrong with a path that is not absolute. -/
def relativeReason (what path : String) : String :=
  what ++ " `" ++ path ++ "` must be absolute"

/-- What is wrong with a volume. -/
def volumeFault? (volume : String × String) : Option String :=
  if (trimBlanks volume.1.toList).isEmpty then some "volume id must not be empty"
  else if !Path.isAbsolute volume.2 then
    some ("path `" ++ volume.2 ++ "` of volume `" ++ volume.1 ++ "` must be absolute")
  else none

/-- The first thing that is wrong with a configuration. -/
def fault? (config : Config) : Option String :=
  if config.quota = 0 then some "internal.quota must be greater than zero"
  else if config.thumbnailWidth = 0 then some "thumbnail_width must be greater than zero"
  else if !Path.isAbsolute config.internalPath then
    some (relativeReason "internal.path" config.internalPath)
  else if !Path.isAbsolute config.settingsPath then
    some (relativeReason "settings_path" config.settingsPath)
  else config.volumes.findSome? volumeFault?

/-- The configuration itself, if nothing is wrong with it. -/
def validate (config : Config) : Except ConfigError Config :=
  match config.fault? with
  | some reason => .error (.invalid reason)
  | none => .ok config

/-- The configuration that the layers over the defaults make up. -/
def ofLayers (default : Config) (file environment : ConfigValue) : Except ConfigError Config :=
  match ofValue? default (file.overlay environment) with
  | some config => config.validate
  | none => .error .unusable

variable {m : Type → Type} [Monad m]

/-- The table in a file. -/
def readLayer (disk : Disk m) (path : String) : ExceptT ConfigError m ConfigValue := do
  match ← (disk.read path).run with
  | .error _ => throw .unusable
  | .ok bytes =>
    match (String.fromUTF8? bytes).bind Toml.table? with
    | some value => return value
    | none => throw .unusable

/-- The table in the file that is asked for, or else in the file in the usual place. Without such a
place nothing is laid over the defaults. -/
def fileLayer (disk : Disk m) (places : Places) (path : Option String) :
    ExceptT ConfigError m ConfigValue :=
  match path.or places.configFile? with
  | some path => readLayer disk path
  | none => return .table []

/-- The configuration from a file and from the environment. A file that is asked for must be
there. -/
def load (disk : Disk m) (places : Places) (path : Option String)
    (environment : List (String × String)) : ExceptT ConfigError m Config := do
  if let some path := path then
    unless ← disk.isFile path do throw (.missing path)
  let file ← fileLayer disk places path
  ExceptT.mk (return ofLayers (defaults places) file (Environment.layer environment))

end Config

end CameraRoll
