import CameraRoll.Disk.Basic
import CameraRoll.Store.Basic
import CameraRoll.Text.FileUrl

/-!
Stores kept in one directory of a disk. Only what stands in the directory itself and is a file
counts; names are checked before the disk is asked.
-/

namespace CameraRoll

namespace DirectoryStore

variable {m : Type → Type} [Monad m]

/-- The store's error for a refusal of the disk concerning `name`. -/
def errorOf (name : String) : DiskError → StoreError
  | .notFound => .notFound name
  | .permissionDenied => .permissionDenied name
  | .alreadyExists => .alreadyExists name
  | .other reason => .io reason

/-- The error where the disk's own words are kept, whatever they are. -/
def ioError : DiskError → StoreError
  | .notFound => .io "not found"
  | .permissionDenied => .io "permission denied"
  | .alreadyExists => .io "already exists"
  | .other reason => .io reason

/-- A disk operation on a file of the directory, after its name was checked. -/
def onFile {α : Type} (root name : String) (act : String → ExceptT DiskError m α) :
    ExceptT StoreError m α := do
  if isValidName name then
    (act (Path.join root name)).adapt (errorOf name)
  else throw (.invalidName name)

/-- The files among the entries of a directory; entries whose names are no text are left out. -/
def filesAmong (entries : List DiskEntry) : List FileInfo :=
  entries.filterMap fun entry =>
    match entry.name, entry.size with
    | some name, some size => some ⟨name, size⟩
    | _, _ => none

/-- All files of the directory. A directory that is gone has none. -/
def list (disk : Disk m) (root : String) : ExceptT StoreError m (List FileInfo) := do
  match ← (disk.list root).run with
  | .ok entries => return filesAmong entries
  | .error .notFound => return []
  | .error e => throw (errorOf root e)

/-- Whether something stands in the directory under this name, links followed. -/
def contains (disk : Disk m) (root name : String) : ExceptT StoreError m Bool := do
  if isValidName name then
    match ← (disk.inspect (Path.join root name)).run with
    | .ok _ => return true
    | .error .notFound => return false
    | .error e => throw (ioError e)
  else throw (.invalidName name)

/-- Name and size of a file; anything else counts as not found. -/
def stat (disk : Disk m) (root name : String) : ExceptT StoreError m FileInfo := do
  match ← onFile root name disk.inspect with
  | .file size => return ⟨name, size⟩
  | .directory => throw (.notFound name)

/-- The operations of the store kept in the directory `root`. -/
def operations (disk : Disk m) (name root : String) : Store m where
  name := name
  list := list disk root
  contains := contains disk root
  read name := onFile root name disk.read
  write name content := onFile root name (disk.write · content)
  create name content := do
    onFile root name (disk.create · content)
    return ⟨name, content.size⟩
  delete name := onFile root name disk.remove
  stat := stat disk root
  nativeUrl name := if isValidName name then FileUrl.ofPath? (Path.join root name) else none

/-- The store in a directory, which is made if nothing is there. The path must be absolute. -/
def make (disk : Disk m) (name root : String) : ExceptT StoreError m (Store m) := do
  if !Path.isAbsolute root then throw (.invalidName root)
  if ← disk.isPresent root then
    unless ← disk.isDirectory root do throw (.invalidName root)
  else
    (disk.makeDirectories root).adapt (errorOf root)
  return operations disk name root

/-- The store in a directory, if that exists. -/
def openExisting (disk : Disk m) (name root : String) :
    ExceptT StoreError m (Option (Store m)) := do
  if ← disk.isDirectory root then return some (← make disk name root) else return none

end DirectoryStore

end CameraRoll
