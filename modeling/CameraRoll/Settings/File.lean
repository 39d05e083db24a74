import CameraRoll.Disk.Path
import CameraRoll.Disk.Basic
import CameraRoll.Json.Reader
import CameraRoll.Json.Writer
import CameraRoll.Settings.Basic

/-!
Settings in a file: one JSON object. A missing file is an empty object. The file is replaced as a
whole: the new object is written beside it and then moved into its place, so that a failure in
between leaves the old one. Members that are no flags are kept as they are.
-/

namespace CameraRoll.SettingsFile

variable {m : Type → Type} [Monad m]

/-- The members of a JSON object. -/
abbrev Members := List (String × JsonValue)

/-- Where the new object is written before it is moved. -/
def temporaryPath (path : String) : String := path ++ ".tmp"

/-- The members that bytes denote. -/
def membersOf (bytes : ByteArray) : Except SettingsError Members :=
  match JsonValue.read? bytes with
  | some (.object members) => .ok members
  | _ => .error .malformed

/-- The members in the file. -/
def load (disk : Disk m) (path : String) : ExceptT SettingsError m Members := do
  match ← (disk.read path).run with
  | .ok bytes => membersOf bytes
  | .error .notFound => return []
  | .error _ => throw .unreadable

def writing {α : Type} (act : ExceptT DiskError m α) : ExceptT SettingsError m α :=
  act.adapt fun _ => .unwritable

def replace (disk : Disk m) (path : String) (members : Members) :
    ExceptT SettingsError m Unit := do
  if let some directory := Path.parent? path then writing (disk.makeDirectories directory)
  writing (disk.write (temporaryPath path) (JsonValue.object members).render.toUTF8)
  writing (disk.rename (temporaryPath path) path)

/-- The flag under a key; a member that is no flag counts as missing. -/
def flag (members : Members) (key : String) (default : Bool) : Bool :=
  match members.lookup key with
  | some (.bool value) => value
  | _ => default

/-- The settings in the file at `path`. -/
def operations (disk : Disk m) (path : String) : Settings m where
  get key default := return flag (← load disk path) key default
  set key value := do replace disk path (insertMember key (.bool value) (← load disk path))

end CameraRoll.SettingsFile
