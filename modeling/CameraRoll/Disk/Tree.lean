import CameraRoll.Disk.Basic
import CameraRoll.Disk.Path
import CameraRoll.Part

/-!
A tree of files, directories and symbolic links, as a map from locations to what stands there.
Paths are walked part by part; a link is replaced by its target, at most forty times in one walk.
-/

namespace CameraRoll

/-- The name of an entry, as the bytes that a disk keeps. -/
abbrev EntryName := List UInt8

/-- The bytes of a text as an entry's name. -/
def EntryName.ofText (s : String) : EntryName := s.toUTF8.data.toList

/-- The text of a name, if its bytes are one. -/
def EntryName.text? (name : EntryName) : Option String := String.fromUTF8? ⟨name.toArray⟩

/-- Longest name of an entry, in bytes. -/
def EntryName.maxLength : Nat := 255

/-- Names from the root of the tree down; the root itself is the empty list. -/
abbrev TreeLocation := List EntryName

/-- What can stand at a location. -/
inductive Node where
  | file (content : ByteArray)
  | directory
  | link (target : String)

/-- A tree of files. The root of the tree is always a directory. -/
structure FileTree where
  nodes : List (TreeLocation × Node) := []
  workingDirectory : TreeLocation := []

namespace FileTree

/-- What stands at a location, links not followed. -/
def at? (tree : FileTree) (location : TreeLocation) : Option Node :=
  if location.isEmpty then some .directory else tree.nodes.lookup location

/-- Puts a node at a location, in place of the one that stands there. -/
def put (tree : FileTree) (location : TreeLocation) (node : Node) : FileTree :=
  if (tree.nodes.lookup location).isSome then
    { tree with nodes := tree.nodes.map fun entry =>
        if entry.1 = location then (location, node) else entry }
  else { tree with nodes := tree.nodes ++ [(location, node)] }

/-- Takes away what stands at a location. -/
def erase (tree : FileTree) (location : TreeLocation) : FileTree :=
  { tree with nodes := tree.nodes.filter fun entry => entry.1 ≠ location }

/-- Takes away all that stands at a location and below it. -/
def eraseBelow (tree : FileTree) (location : TreeLocation) : FileTree :=
  { tree with nodes := tree.nodes.filter fun entry => !location.isPrefixOf entry.1 }

/-- The entries right below a location. -/
def children (tree : FileTree) (location : TreeLocation) : List (EntryName × Node) :=
  tree.nodes.filterMap fun (place, node) =>
    match place.getLast? with
    | some name => if place.dropLast = location then some (name, node) else none
    | none => none

/-- One step of a path. -/
inductive Step where
  | stay
  | up
  | into (name : EntryName)
  deriving DecidableEq, Repr

/-- The steps of a path. A slash at the end asks for a directory, as a dot does. -/
def steps (path : String) : List Step :=
  let parts := Path.splitSlashes path.toList
  let named := (parts.filter (!·.isEmpty)).map fun part =>
    if part = ['.'] then .stay
    else if part = ['.', '.'] then .up
    else .into (EntryName.ofText (String.ofList part))
  if parts.length > 1 && parts.getLast? = some [] then named ++ [.stay] else named

/-- Most links that one walk follows. -/
def maxLinks : Nat := 40

/-- Where steps lead from a directory. The last step may lead to a place where nothing stands; a
link in that place is followed only if `followLast` says so. -/
def walk (tree : FileTree) (followLast : Bool) (links : Nat) (here : TreeLocation) :
    List Step → Except DiskError TreeLocation
  | [] => .ok here
  | .stay :: rest => walk tree followLast links here rest
  | .up :: rest => walk tree followLast links here.dropLast rest
  | .into name :: rest =>
    let there := here ++ [name]
    if EntryName.maxLength < name.length then .error (.other "file name too long")
    else match tree.at? there with
      | none => if rest.isEmpty then .ok there else .error .notFound
      | some .directory => walk tree followLast links there rest
      | some (.file _) => if rest.isEmpty then .ok there else .error (.other "not a directory")
      | some (.link target) =>
        if rest.isEmpty && !followLast then .ok there
        else if target.isEmpty then .error .notFound
        else match links with
          | 0 => .error (.other "too many levels of symbolic links")
          | links + 1 =>
            walk tree followLast links (if Path.isAbsolute target then [] else here)
              (steps target ++ rest)
termination_by rest => (links, rest.length)

/-- The location that a path leads to. -/
def locate (tree : FileTree) (followLast : Bool) (path : String) : Except DiskError TreeLocation :=
  if path.isEmpty then .error .notFound
  else if path.toList.contains '\x00' then .error (.other "a path holds a NUL")
  else walk tree followLast maxLinks
    (if Path.isAbsolute path then [] else tree.workingDirectory) (steps path)

/-- What a path leads to, links followed. -/
def inspect (tree : FileTree) (path : String) : Except DiskError Standing := do
  match tree.at? (← tree.locate true path) with
  | some (.file content) => return .file content.size
  | some .directory => return .directory
  | some (.link _) | none => throw .notFound

/-- The entries of the directory that a path leads to. -/
def list (tree : FileTree) (path : String) : Except DiskError (List DiskEntry) := do
  let location ← tree.locate true path
  match tree.at? location with
  | some .directory =>
    return (tree.children location).map fun (name, node) =>
      { name := EntryName.text? name
        size := match node with
          | .file content => some content.size
          | _ => none }
  | some (.file _) => throw (.other "not a directory")
  | some (.link _) | none => throw .notFound

/-- The content of the file that a path leads to. -/
def read (tree : FileTree) (path : String) : Except DiskError ByteArray := do
  match tree.at? (← tree.locate true path) with
  | some (.file content) => return content
  | some .directory => throw (.other "is a directory")
  | some (.link _) | none => throw .notFound

/-- The tree with this content in the file that a path leads to. -/
def write (tree : FileTree) (path : String) (content : ByteArray) :
    Except DiskError FileTree := do
  let location ← tree.locate true path
  match tree.at? location with
  | some .directory => throw (.other "is a directory")
  | _ => return tree.put location (.file content)

/-- The tree with a new file. -/
def create (tree : FileTree) (path : String) (content : ByteArray) :
    Except DiskError FileTree := do
  let location ← tree.locate false path
  match tree.at? location with
  | some _ => throw .alreadyExists
  | none => return tree.put location (.file content)

/-- The tree without a file or link. -/
def remove (tree : FileTree) (path : String) : Except DiskError FileTree := do
  let location ← tree.locate false path
  match tree.at? location with
  | some .directory => throw (.other "is a directory")
  | some _ => return tree.erase location
  | none => throw .notFound

/-- The tree with a file or link moved to another path. -/
def rename (tree : FileTree) (source target : String) : Except DiskError FileTree := do
  let start ← tree.locate false source
  let goal ← tree.locate false target
  match tree.at? start with
  | none => throw .notFound
  | some .directory => throw (.other "is a directory")
  | some node =>
    match tree.at? goal with
    | some .directory => throw (.other "is a directory")
    | _ => return (tree.erase start).put goal node

/-- The tree with a new directory. -/
def makeDirectory (tree : FileTree) (path : String) : Except DiskError FileTree := do
  let location ← tree.locate false path
  match tree.at? location with
  | some _ => throw .alreadyExists
  | none => return tree.put location .directory

/-- Whether a directory stands at a path. -/
def isDirectory (tree : FileTree) (path : String) : Bool :=
  match tree.inspect path with
  | .ok .directory => true
  | _ => false

/-- Makes the directory of a path given by its parts, last one first, after those above it if it
is missing. Directories made before a failure stay. -/
def makeBelow (tree : FileTree) (absolute : Bool) : List String → Except DiskError Unit × FileTree
  | [] => (.ok (), tree)
  | part :: above =>
    let path := Path.ofParts absolute (part :: above).reverse
    let settle (tree : FileTree) (e : DiskError) : Except DiskError Unit × FileTree :=
      if tree.isDirectory path then (.ok (), tree) else (.error e, tree)
    match tree.makeDirectory path with
    | .ok made => (.ok (), made)
    | .error .notFound =>
      match tree.makeBelow absolute above with
      | (.error e, tree) => (.error e, tree)
      | (.ok (), tree) =>
        match tree.makeDirectory path with
        | .ok made => (.ok (), made)
        | .error e => settle tree e
    | .error e => settle tree e

/-- Makes the directory of a path and those above it. -/
def makeDirectories (tree : FileTree) (path : String) : Except DiskError Unit × FileTree :=
  tree.makeBelow (Path.isAbsolute path) (Path.parts path).reverse

/-- A look at the tree as a step that leaves it as it is. -/
def look {α : Type} (view : FileTree → Except DiskError α) :
    ExceptT DiskError (StateM FileTree) α :=
  ExceptT.mk fun tree => (view tree, tree)

/-- A change as a step; a refused change leaves the tree as it is. -/
def change (act : FileTree → Except DiskError FileTree) :
    ExceptT DiskError (StateM FileTree) Unit :=
  ExceptT.mk fun tree =>
    match act tree with
    | .ok changed => (.ok (), changed)
    | .error e => (.error e, tree)

/-- The tree that is a part of a world, as a disk. -/
def disk {W : Type} (part : Part W FileTree) : Disk (StateM W) where
  inspect path := ExceptT.mk (part.run (look (·.inspect path)).run)
  list path := ExceptT.mk (part.run (look (·.list path)).run)
  read path := ExceptT.mk (part.run (look (·.read path)).run)
  write path content := ExceptT.mk (part.run (change (·.write path content)).run)
  create path content := ExceptT.mk (part.run (change (·.create path content)).run)
  remove path := ExceptT.mk (part.run (change (·.remove path)).run)
  rename source target := ExceptT.mk (part.run (change (·.rename source target)).run)
  makeDirectories path := ExceptT.mk (part.run (·.makeDirectories path))

end FileTree

end CameraRoll
