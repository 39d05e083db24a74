import CameraRoll.CommandLine.Run
import CameraRoll.Disk.Tree

/-!
A machine held in memory: a tree of files, the user's input, and what was written.
-/

namespace CameraRoll.CommandLine

open CameraRoll.Calendar

/-- A machine's state. -/
structure Desk where
  tree : FileTree := {}
  /-- The directory from which paths that are not absolute start. -/
  directory : String := "/"
  input : List UInt8 := []
  output : String := ""
  complaints : String := ""
  now : Instant := ⟨0⟩

namespace Desk

/-- The files of the desk. -/
def treePart : Part Desk FileTree where
  get desk := desk.tree
  set tree desk := { desk with tree := tree }
  get_set _ _ := rfl
  set_get _ := rfl
  set_set _ _ _ := rfl

/-- A disk on which paths start from a directory. -/
def startingFrom {W : Type} (directory : W → String) (disk : Disk (StateM W)) :
    Disk (StateM W) :=
  let placed {α : Type} (act : String → ExceptT DiskError (StateM W) α) (path : String) :
      ExceptT DiskError (StateM W) α :=
    ExceptT.mk fun world => (act (Path.join (directory world) path)).run world
  { inspect := placed disk.inspect
    list := placed disk.list
    read := placed disk.read
    write := fun path content => placed (disk.write · content) path
    create := fun path content => placed (disk.create · content) path
    remove := placed disk.remove
    rename := fun source target => placed (fun source => placed (disk.rename source) target) source
    makeDirectories := placed disk.makeDirectories }

/-- The disk of a desk. -/
def disk : Disk (StateM Desk) := startingFrom directory (FileTree.disk treePart)

/-- The next line of the input, with its end. -/
def nextLine : StateM Desk ByteArray := fun desk =>
  let line := desk.input.takeWhile (· != 10)
  let rest := desk.input.dropWhile (· != 10)
  (⟨(line ++ rest.take 1).toArray⟩, { desk with input := rest.drop 1 })

/-- The machine of a desk on a platform. -/
def machineOn (platform : Platform) (codec : Codec) : Machine (StateM Desk) where
  disk := disk
  clock desk := (desk.now, desk)
  input := nextLine
  say text desk := ((), { desk with output := desk.output ++ text })
  complain text desk := ((), { desk with complaints := desk.complaints ++ text })
  platform := platform
  codec := codec

/-- The machine of a desk on a platform that is known by its environment alone. -/
def machine (environment : List (String × String)) (codec : Codec) : Machine (StateM Desk) :=
  machineOn (.ofEnvironment environment) codec

end Desk

end CameraRoll.CommandLine
