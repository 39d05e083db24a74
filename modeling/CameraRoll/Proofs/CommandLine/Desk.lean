import CameraRoll.CommandLine.Desk
import CameraRoll.Proofs.Disk.Growth

/-!
The disk of a desk. Relative paths start from the desk's directory, so that under absolute paths the
disk is that of the desk's tree. Main statements: `startingFrom_sameAt`, and `operations_congr` with
`make_congr`, by which stores depend on nothing but what the disk does at their paths.
-/

namespace CameraRoll

/-! ### Disks that do the same -/

section Congruence

variable {m : Type → Type}

/-- Two disks do the same at a path. -/
structure Disk.SameAt (disk other : Disk m) (path : String) : Prop where
  inspect : disk.inspect path = other.inspect path
  list : disk.list path = other.list path
  read : disk.read path = other.read path
  write : ∀ content, disk.write path content = other.write path content
  create : ∀ content, disk.create path content = other.create path content
  remove : disk.remove path = other.remove path
  makeDirectories : disk.makeDirectories path = other.makeDirectories path

variable [Monad m] {disk other : Disk m} {root : String}

namespace Disk.SameAt

theorem isPresent (same : disk.SameAt other root) : disk.isPresent root = other.isPresent root := by
  rw [Disk.isPresent, Disk.isPresent, same.inspect]

theorem isDirectory (same : disk.SameAt other root) :
    disk.isDirectory root = other.isDirectory root := by
  rw [Disk.isDirectory, Disk.isDirectory, same.inspect]

end Disk.SameAt

namespace DirectoryStore

/-- A store depends on what the disk does at the directory and at the names in it. -/
theorem operations_congr (here : disk.SameAt other root)
    (inside : ∀ name, disk.SameAt other (Path.join root name)) (label : String) :
    operations disk label root = operations other label root := by
  unfold operations list contains stat onFile
  simp only [here.list, fun name => (inside name).inspect, fun name => (inside name).read,
    fun name => (inside name).write, fun name => (inside name).create,
    fun name => (inside name).remove]

theorem make_congr (here : disk.SameAt other root)
    (inside : ∀ name, disk.SameAt other (Path.join root name)) (label : String) :
    make disk label root = make other label root := by
  rw [make, make, here.isPresent, here.isDirectory, here.makeDirectories,
    operations_congr here inside]

theorem openExisting_congr (here : disk.SameAt other root)
    (inside : ∀ name, disk.SameAt other (Path.join root name)) (label : String) :
    openExisting disk label root = openExisting other label root := by
  rw [openExisting, openExisting, here.isDirectory, make_congr here inside]

end DirectoryStore

theorem SettingsFile.get_congr (same : disk.SameAt other root) :
    (operations disk root).get = (operations other root).get := by
  simp only [operations, load, same.read]

end Congruence

/-! ### Absolute paths -/

namespace CommandLine.Desk

variable {W : Type} (directory : W → String) (disk : Disk (StateM W)) {path root : String}

private theorem placed_eq {α : Type} (absolute : Path.isAbsolute path = true)
    (act : String → ExceptT DiskError (StateM W) α) :
    (ExceptT.mk fun world => (act (Path.join (directory world) path)).run world) = act path := by
  simp only [Path.join_absolute _ absolute]
  rfl

/-- Where relative paths start makes no difference to absolute ones. -/
theorem startingFrom_sameAt (absolute : Path.isAbsolute path = true) :
    (startingFrom directory disk).SameAt disk path where
  inspect := placed_eq directory absolute disk.inspect
  list := placed_eq directory absolute disk.list
  read := placed_eq directory absolute disk.read
  write content := placed_eq directory absolute (disk.write · content)
  create content := placed_eq directory absolute (disk.create · content)
  remove := placed_eq directory absolute disk.remove
  makeDirectories := placed_eq directory absolute disk.makeDirectories

theorem make_startingFrom (absolute : Path.isAbsolute root = true) (label : String) :
    DirectoryStore.make (startingFrom directory disk) label root =
      DirectoryStore.make disk label root :=
  DirectoryStore.make_congr (startingFrom_sameAt directory disk absolute)
    (fun name => startingFrom_sameAt directory disk (Path.isAbsolute_join absolute name)) label

theorem openExisting_startingFrom (absolute : Path.isAbsolute root = true) (label : String) :
    DirectoryStore.openExisting (startingFrom directory disk) label root =
      DirectoryStore.openExisting disk label root :=
  DirectoryStore.openExisting_congr (startingFrom_sameAt directory disk absolute)
    (fun name => startingFrom_sameAt directory disk (Path.isAbsolute_join absolute name)) label

end CommandLine.Desk

end CameraRoll
