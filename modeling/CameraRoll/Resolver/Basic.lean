import CameraRoll.Calendar.Time
import CameraRoll.Disk.Basic
import CameraRoll.Disk.Path
import CameraRoll.Media.ContentType
import CameraRoll.Naming.Collision
import CameraRoll.Naming.Stamp
import CameraRoll.Naming.Thumbnail
import CameraRoll.Resolver.Error
import CameraRoll.Text.Base64

/-!
A resolver gives both locations of a library the same operations: files are listed, saved under
free names, read, removed and addressed by URLs, wherever they are.
-/

namespace CameraRoll

/-- The stores of both locations, and the zone of times in names. -/
structure Resolver (m : Type → Type) where
  internal : Store m
  external : Option (Store m)
  zone : Calendar.Zone

/-- The files a catalog is made from. -/
structure Entries where
  pictures : List StoredFile
  thumbnails : List StoredFile
  deriving DecidableEq, Repr

namespace Resolver

variable {m : Type → Type} [Monad m]

/-- The store of a location, if there is one. -/
def store? (resolver : Resolver m) : Location → Option (Store m)
  | .internal => some resolver.internal
  | .external => resolver.external

/-- Whether there is an external location. -/
def hasExternal (resolver : Resolver m) : Bool := resolver.external.isSome

/-- Where new pictures go: outside if that is possible. -/
def authoritative (resolver : Resolver m) : Location :=
  if resolver.hasExternal then .external else .internal

/-- A step of a store as a step of the resolver. -/
def storing {α : Type} (act : ExceptT StoreError m α) : ExceptT ResolverError m α :=
  act.adapt .storage

/-- The store of a location that has to exist. -/
def require (resolver : Resolver m) (location : Location) : ExceptT ResolverError m (Store m) :=
  match resolver.store? location with
  | some store => return store
  | none => throw (.absent location)

/-- A step whose failure does not matter. -/
def attempt {ε δ α : Type} (act : ExceptT ε m α) : ExceptT δ m Unit :=
  ExceptT.mk do
    let _ ← act.run
    return .ok ()

/-- All files of a location; an absent location has none. -/
def enumerate (resolver : Resolver m) (location : Location) :
    ExceptT ResolverError m (List StoredFile) :=
  match resolver.store? location with
  | none => return []
  | some store => return (← storing store.list).map (StoredFile.ofInfo location)

/-- A file, if it is there. -/
def find? (resolver : Resolver m) (location : Location) (name : String) :
    ExceptT ResolverError m (Option StoredFile) :=
  match resolver.store? location with
  | none => return none
  | some store => do
    match ← (store.stat name).run with
    | .ok info => return some (.ofInfo location info)
    | .error e => if e.isNotFound then return none else throw (.storage e)

/-- Creates an empty file under the first free name among `candidate` and the names after it,
trying so many of them. -/
def createFree (store : Store m) (name : String) :
    (attempts : Nat) → (candidate : String) → ExceptT ResolverError m FileInfo
  | 0, _ => throw (.noFreeName name)
  | attempts + 1, candidate => do
    match ← (store.create candidate .empty).run with
    | .ok info => return info
    | .error (.alreadyExists _) => createFree store name attempts (Naming.nextName candidate)
    | .error e => throw (.storage e)

/-- Number of names worth trying. Indices have 64 bits, so that later names repeat. -/
def nameCount : Nat := Text.maxWord64 + 3

/-- Creates an empty file under `name`, or under the next free name if that is taken. In an absent
location no file is created. -/
def createFile (resolver : Resolver m) (location : Location) (name : String) :
    ExceptT ResolverError m (Option StoredFile) :=
  match resolver.store? location with
  | none => return none
  | some store => return some (.ofInfo location (← createFree store name nameCount name))

/-- Fills a file that was created empty; on failure the empty file is removed. -/
def fill (store : Store m) (name : String) (content : ByteArray) :
    ExceptT ResolverError m Unit := do
  match ← (store.write name content).run with
  | .ok () => return ()
  | .error e => do
    attempt (store.delete name)
    throw (.storage e)

/-- Stores content under `name`, or under the next free name if that is taken. -/
def save (resolver : Resolver m) (location : Location) (name : String) (content : ByteArray) :
    ExceptT ResolverError m StoredFile := do
  let store ← resolver.require location
  let free ← createFree store name nameCount name
  fill store free.name content
  return .ofInfo location (← storing (store.stat free.name))

/-- The content of a file. -/
def read (resolver : Resolver m) (file : StoredFile) : ExceptT ResolverError m ByteArray := do
  storing ((← resolver.require file.location).read file.name)

def remove (resolver : Resolver m) (file : StoredFile) : ExceptT ResolverError m Unit := do
  storing ((← resolver.require file.location).delete file.name)

/-- Whether a file is there. -/
def contains (resolver : Resolver m) (file : StoredFile) : ExceptT ResolverError m Bool :=
  match resolver.store? file.location with
  | some store => storing (store.contains file.name)
  | none => return false

/-- Gives a file another name in its location, over the file that has that name. -/
def relocate (resolver : Resolver m) (file : StoredFile) (name : String) :
    ExceptT ResolverError m StoredFile := do
  let store ← resolver.require file.location
  let content ← storing (store.read file.name)
  storing (store.write name content)
  storing (store.delete file.name)
  return .ofInfo file.location (← storing (store.stat name))

/-- The store's own URL of a file, if it has one. -/
def nativeUrl (resolver : Resolver m) (file : StoredFile) : Option String :=
  (resolver.store? file.location).bind (·.nativeUrl file.name)

/-- A URL that carries content itself. -/
def dataUrl (name : String) (content : ByteArray) : String :=
  "data:" ++ contentType name ++ ";base64,"
    ++ String.ofList (Text.base64 content.data.toList)

/-- A URL that carries the content of a file. -/
def inlineUrl (resolver : Resolver m) (file : StoredFile) : ExceptT ResolverError m String :=
  return dataUrl file.name (← resolver.read file)

/-- A URL from which a viewer can load a file. With an external location the store's own URLs may
be out of the viewer's reach, so that the content itself is taken. -/
def readableUrl (resolver : Resolver m) (file : StoredFile) : ExceptT ResolverError m String :=
  match resolver.nativeUrl file with
  | some url => if resolver.hasExternal then resolver.inlineUrl file else return url
  | none => resolver.inlineUrl file

/-- The primary files among those of the authoritative location: outside only those named by kind
and time, inside all but the thumbnails. -/
def isPrimary (resolver : Resolver m) (file : StoredFile) : Bool :=
  if resolver.hasExternal then file.kind.isPrimary && Naming.isStamped file.name
  else !file.isThumbnail

/-- The files a catalog is made from. Thumbnails are always inside. -/
def entries (resolver : Resolver m) : ExceptT ResolverError m Entries := do
  let internal ← resolver.enumerate .internal
  let external ← resolver.enumerate .external
  let candidates := if resolver.hasExternal then external else internal
  return ⟨candidates.filter resolver.isPrimary, internal.filter (·.isThumbnail)⟩

def copying {α : Type} (act : ExceptT DiskError m α) : ExceptT ResolverError m α :=
  act.adapt fun _ => .exporting none

/-- Copies a file out of the library, to a path or, if a directory is there, into it. -/
def copyOut (resolver : Resolver m) (disk : Disk m) (file : StoredFile) (target : String) :
    ExceptT ResolverError m Unit := do
  let content ← (resolver.read file).adapt fun e => .exporting (some e)
  let path := if ← disk.isDirectory target then Path.join target file.name else target
  copying (disk.write path content)

/-- A zone in a description. -/
def zoneText : Calendar.Zone → String
  | .platform _ => "Local"
  | .fixed offset => "Fixed(" ++ String.ofList (Calendar.offsetText offset) ++ ")"

def description (resolver : Resolver m) : String :=
  let external := match resolver.external with
    | some store => "Some(\"" ++ store.name ++ "\")"
    | none => "None"
  "Resolver \x7b internal: \"" ++ resolver.internal.name ++ "\", external: " ++ external
    ++ ", zone: " ++ zoneText resolver.zone ++ " \x7d"

end Resolver

end CameraRoll
