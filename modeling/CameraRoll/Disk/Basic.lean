/-!
What the library asks of a disk: looking at, listing, reading and changing what stands at a path.
A path is a text with parts between slashes. The operations work in any monad, so that one and the
same library runs on a real disk and on a tree of files held in memory.
-/

namespace CameraRoll

/-- Why a disk refused. -/
inductive DiskError where
  | notFound
  | permissionDenied
  | alreadyExists
  /-- Anything else, in the disk's own words. -/
  | other (reason : String)
  deriving DecidableEq, Repr

/-- What a path leads to once links are followed. -/
inductive Standing where
  | file (size : Nat)
  | directory
  deriving DecidableEq, Repr

/-- One entry of a directory: its name, unless it is no text, and its size if the entry itself is
a file. Links are not followed. -/
structure DiskEntry where
  name : Option String
  size : Option Nat
  deriving DecidableEq, Repr

/-- The operations of a disk. -/
structure Disk (m : Type → Type) where
  /-- What stands at a path, links followed. -/
  inspect : String → ExceptT DiskError m Standing
  /-- The entries of a directory. -/
  list : String → ExceptT DiskError m (List DiskEntry)
  /-- The content of a file. -/
  read : String → ExceptT DiskError m ByteArray
  /-- Makes a file with this content, in place of the file that is there. -/
  write : String → ByteArray → ExceptT DiskError m Unit
  /-- Makes a file with this content where nothing stands. -/
  create : String → ByteArray → ExceptT DiskError m Unit
  /-- Removes a file or a link. -/
  remove : String → ExceptT DiskError m Unit
  /-- Moves a file to another path, over the file that is there. -/
  rename : String → String → ExceptT DiskError m Unit
  /-- Makes a directory and those above it, as far as they are missing. -/
  makeDirectories : String → ExceptT DiskError m Unit

/-- Whether a directory stands at a path. -/
def Disk.isDirectory {m : Type → Type} [Monad m] (disk : Disk m) (path : String) : m Bool := do
  match ← (disk.inspect path).run with
  | .ok .directory => return true
  | _ => return false

/-- Whether a file stands at a path. -/
def Disk.isFile {m : Type → Type} [Monad m] (disk : Disk m) (path : String) : m Bool := do
  match ← (disk.inspect path).run with
  | .ok (.file _) => return true
  | _ => return false

/-- Whether anything stands at a path. -/
def Disk.isPresent {m : Type → Type} [Monad m] (disk : Disk m) (path : String) : m Bool := do
  match ← (disk.inspect path).run with
  | .ok _ => return true
  | .error _ => return false

end CameraRoll
