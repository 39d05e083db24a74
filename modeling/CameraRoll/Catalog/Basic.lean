import CameraRoll.Catalog.Error
import CameraRoll.Catalog.Picture
import CameraRoll.Media.Codec
import CameraRoll.Naming.Canonical
import CameraRoll.Resolver.Basic

/-!
A catalog is a list of pictures sorted by capture time, made from the stored files at the first
operation and kept in step with every picture that it saves and deletes. Observers hear of every
picture that enters or leaves the list.
-/

namespace CameraRoll

open CameraRoll.Calendar

/-- What a catalog works with. -/
structure Library (m : Type → Type) where
  resolver : Resolver m
  codec : Codec
  /-- Width of thumbnails. -/
  width : Nat
  clock : m Instant
  /-- Where pictures are exported to. -/
  disk : Disk m

/-- The list of a catalog: not made yet, made, or impossible to make. -/
inductive Listing where
  | unloaded
  | loaded (pictures : List Picture)
  | failed

/-- What observers hear. -/
inductive Notice where
  | added (picture : Picture)
  | deleted (picture : Picture)

/-- An observer, by what it has heard so far. -/
structure Observer where
  heard : List Notice := []

/-- The state of a catalog. -/
structure Catalog where
  listing : Listing := .unloaded
  observers : List Observer := []

namespace Catalog

/-- The catalog after its observers heard a notice. -/
def notify (notice : Notice) (catalog : Catalog) : Catalog :=
  { catalog with observers := catalog.observers.map fun observer =>
      { observer with heard := observer.heard ++ [notice] } }

/-- The catalog after its observers heard several notices. -/
def notifyAll (notices : List Notice) (catalog : Catalog) : Catalog :=
  notices.foldl (fun catalog notice => catalog.notify notice) catalog

/-- The list, if it was made. -/
def pictures? (catalog : Catalog) : Option (List Picture) :=
  match catalog.listing with
  | .loaded pictures => some pictures
  | _ => none

/-- The catalog with another list. -/
def withPictures (catalog : Catalog) (pictures : List Picture) : Catalog :=
  { catalog with listing := .loaded pictures }

/-- The list with a picture in its place, and everyone told. -/
def add (picture : Picture) (catalog : Catalog) : Catalog :=
  match catalog.listing with
  | .loaded pictures =>
    (catalog.withPictures (picture.insert pictures)).notify (.added picture)
  | _ => catalog

/-- The list without a picture, and everyone told, whether it was listed or not. -/
def drop (picture : Picture) (catalog : Catalog) : Catalog :=
  match catalog.listing with
  | .loaded pictures =>
    (catalog.withPictures (picture.erase pictures)).notify (.deleted picture)
  | _ => catalog

end Catalog

namespace Library

variable {m : Type → Type} [Monad m]

/-- A step of the resolver as a step of the catalog. -/
def storing {α : Type} (act : ExceptT ResolverError m α) : ExceptT CatalogError m α :=
  act.adapt .storage

/-- The content of a file, unless it is at hand. -/
def contentOf (library : Library m) (file : StoredFile) (content : Option ByteArray) :
    ExceptT CatalogError m ByteArray :=
  match content with
  | some content => return content
  | none => storing (library.resolver.read file)

/-- Makes and stores a thumbnail. -/
def makeThumbnail (library : Library m) (file : StoredFile) (content : Option ByteArray) :
    ExceptT CatalogError m StoredFile := do
  match library.codec.thumbnail (← library.contentOf file content) file.kind.mediaKind
      library.width with
  | .made thumbnail =>
    storing (library.resolver.save .internal (Naming.thumbnailName file.name) thumbnail)
  | .refused e => throw (.media e)
  | .crashed => throw .interrupted

/-- The thumbnail of a file that has none yet. It goes without one if none can be made; only a
crash of the codec breaks off the work. -/
def obtainThumbnail (library : Library m) (file : StoredFile) (content : Option ByteArray) :
    ExceptT CatalogError m (Option StoredFile) := do
  if library.codec.supports file.kind.mediaKind then
    match ← ExceptT.lift (library.makeThumbnail file content).run with
    | .ok thumbnail => return some thumbnail
    | .error .interrupted => throw .interrupted
    | .error _ => return none
  else return none

/-- The picture of a primary file. -/
def wrap (library : Library m) (file : StoredFile) (thumbnail : Option StoredFile)
    (content : Option ByteArray) : ExceptT CatalogError m Picture := do
  let thumbnail ← match thumbnail with
    | some thumbnail => pure (some thumbnail)
    | none => library.obtainThumbnail file content
  match Picture.ofFile file thumbnail library.resolver.zone with
  | some picture => return picture
  | none => throw .interrupted

/-- The pictures of files, one after the other. -/
def wrapAll (library : Library m) (thumbnails : List StoredFile) :
    List StoredFile → ExceptT CatalogError m (List Picture)
  | [] => return []
  | file :: rest => do
    let thumbnail := thumbnails.find? (·.name = Naming.thumbnailName file.name)
    let picture ← library.wrap file thumbnail none
    return picture :: (← library.wrapAll thumbnails rest)

/-- All pictures that are stored, sorted by time. -/
def loadPictures (library : Library m) : ExceptT CatalogError m (List Picture) := do
  let entries ← storing library.resolver.entries
  return Picture.sortByTime (← library.wrapAll entries.thumbnails entries.pictures)

abbrev Action (m : Type → Type) (α : Type) := ExceptT CatalogError (StateT Catalog m) α

/-- A step outside the catalog. -/
def outside {ε α : Type} (act : ExceptT ε m α) (wrapping : ε → CatalogError) : Action m α :=
  ExceptT.mk do
    match ← StateT.lift act.run with
    | .ok a => return .ok a
    | .error e => return .error (wrapping e)

def change (f : Catalog → Catalog) : Action m Unit :=
  ExceptT.lift (modifyGet fun catalog => ((), f catalog))

/-- The list; the first time, it is made. -/
def list (library : Library m) : Action m (List Picture) := do
  let catalog ← ExceptT.lift (get : StateT Catalog m Catalog)
  match catalog.listing with
  | .loaded pictures => return pictures
  | .failed => throw .loadFailed
  | .unloaded =>
    match ← ExceptT.lift (StateT.lift library.loadPictures.run) with
    | .ok pictures =>
      change fun catalog => (catalog.notifyAll (pictures.map .added)).withPictures pictures
      return pictures
    | .error _ =>
      change fun catalog => { catalog with listing := .failed }
      throw .loadFailed

/-- Makes the list if it was not made yet. -/
def load (library : Library m) : Action m Unit := do
  let _ ← library.list

def last (library : Library m) : Action m (Option Picture) :=
  return (← library.list).getLast?

/-- The first picture whose primary file has a name. -/
def find? (library : Library m) (name : String) : Action m (Option Picture) :=
  return (← library.list).find? (·.name = name)

/-- The bytes that are stored for a new picture: an image the right way up, if that can be done. -/
def oriented (codec : Codec) (content : ByteArray) : MediaKind → ByteArray
  | .image =>
    match codec.orient content with
    | .ok upright => upright
    | .error _ => content
  | .video => content

/-- Stores media under the name of the present time. -/
def store (library : Library m) (content : ByteArray) (kind : MediaKind) :
    ExceptT CatalogError m Picture := do
  let name := Naming.canonicalName kind (← library.clock) library.resolver.zone
  let file ← storing (library.resolver.save library.resolver.authoritative name content)
  library.wrap file none (some content)

/-- Stores new media and adds it to the list. -/
def save (library : Library m) (content : ByteArray) (kind : MediaKind) : Action m Picture := do
  let _ ← library.list
  let picture ← outside (library.store (oriented library.codec content kind) kind) id
  change (·.add picture)
  return picture

/-- Removes a picture from its location and from the list, and its thumbnail. If the file is gone
already, only the rest is done. -/
def delete (library : Library m) (picture : Picture) (gone : Bool) : Action m Unit := do
  let _ ← library.list
  unless gone do outside (library.resolver.remove picture.file) .storage
  change (·.drop picture)
  if let some thumbnail := picture.thumbnail then
    outside (Resolver.attempt (library.resolver.remove thumbnail)) id

/-- Copies a picture out of the library. -/
def copyOut (library : Library m) (picture : Picture) (target : String) : Action m Unit := do
  let _ ← library.list
  outside (library.resolver.copyOut library.disk picture.file target) .exporting

/-- Drops pictures from the end of the list as long as their files are gone, so many at most. -/
def prune (library : Library m) : (count : Nat) → Action m (Option Picture)
  | 0 => library.last
  | count + 1 => do
    match ← library.last with
    | none => return none
    | some picture =>
      if library.resolver.hasExternal then
        if ← outside (library.resolver.contains picture.file) .storage then return some picture
        else
          library.delete picture true
          library.prune count
      else return some picture

/-- Drops pictures from the end of the list whose files were removed by someone else; the answer
is the last one that is left. Inside, nobody else removes files. -/
def checkLast (library : Library m) : Action m (Option Picture) := do
  library.prune (← library.list).length

/-- A URL of the picture. -/
def pictureUrl (library : Library m) (picture : Picture) : Action m String :=
  outside (library.resolver.readableUrl picture.file) .storage

/-- A URL of the picture's thumbnail, if it has one. -/
def thumbnailUrl (library : Library m) (picture : Picture) : Action m (Option String) :=
  match picture.thumbnail with
  | none => return none
  | some thumbnail =>
    match library.resolver.nativeUrl thumbnail with
    | some url => return some url
    | none => do return some (← outside (library.resolver.inlineUrl thumbnail) .storage)

end Library

end CameraRoll
