import CameraRoll.Catalog.Basic
import CameraRoll.Disk.Tree
import CameraRoll.Resolver.Initialization
import CameraRoll.Settings.Memory
import CameraRoll.Store.Memory
import CameraRoll.Store.Quota

/-!
A world in which everything around a library is held in memory: both stores, the settings, the
user, the clock and the disk that pictures are exported to. Histories of sessions can be run and
looked at in it.
-/

namespace CameraRoll

open CameraRoll.Calendar

/-- Everything around a library. -/
structure Bench where
  internal : MemoryStore := {}
  external : MemoryStore := {}
  settings : MemorySettings := {}
  /-- How often the user was asked. -/
  prompts : Nat := 0
  /-- The volumes that were opened, latest first, each with the directory asked for. -/
  opened : List (String × Option String) := []
  exports : FileTree := {}
  now : Instant := ⟨0⟩

namespace Bench

/-- The internal store of the bench. -/
def internalPart : Part Bench MemoryStore where
  get bench := bench.internal
  set store bench := { bench with internal := store }
  get_set _ _ := rfl
  set_get _ := rfl
  set_set _ _ _ := rfl

/-- The external store of the bench. -/
def externalPart : Part Bench MemoryStore where
  get bench := bench.external
  set store bench := { bench with external := store }
  get_set _ _ := rfl
  set_get _ := rfl
  set_set _ _ _ := rfl

/-- The settings of the bench. -/
def settingsPart : Part Bench MemorySettings where
  get bench := bench.settings
  set settings bench := { bench with settings := settings }
  get_set _ _ := rfl
  set_get _ := rfl
  set_set _ _ _ := rfl

/-- The directory that pictures are copied to. -/
def exportsPart : Part Bench FileTree where
  get bench := bench.exports
  set tree bench := { bench with exports := tree }
  get_set _ _ := rfl
  set_get _ := rfl
  set_set _ _ _ := rfl

/-- How opening a volume of the bench's host ends. -/
inductive VolumeState where
  | present
  | absent
  | broken
  deriving DecidableEq, Repr

/-- The host of a bench: whether its stores can be had, and what their URLs start with. -/
structure Surroundings where
  internalAvailable : Bool := true
  external : VolumeState := .absent
  volumes : Option (List String) := some [Host.downloadsPattern]
  internalUrl : Option String := none
  externalUrl : Option String := none
  deriving DecidableEq, Repr

/-- The private store, without a quota. -/
def internalStore (url : Option String) : Store (StateM Bench) :=
  MemoryStore.operations internalPart "internal" url

/-- The store of the volume. -/
def externalStore (url : Option String) : Store (StateM Bench) :=
  MemoryStore.operations externalPart "external" url

/-- Remembers that a volume was opened. -/
def noteOpened (volume : String) (subdirectory : Option String) : StateM Bench Unit :=
  modifyGet fun bench => ((), { bench with opened := (volume, subdirectory) :: bench.opened })

/-- The host of a bench. -/
def host (around : Surroundings) : Host (StateM Bench) where
  internalStore quota :=
    if around.internalAvailable then
      return (internalStore around.internalUrl).withQuota quota
    else throw (.permissionDenied "internal")
  volumes := return around.volumes
  openVolume volume subdirectory := do
    noteOpened volume subdirectory
    match around.external with
    | .present => return some (externalStore around.externalUrl)
    | .absent => return none
    | .broken => throw (.permissionDenied "external")

/-- The settings of a bench. -/
def settingsStore : Settings (StateM Bench) := MemorySettings.operations settingsPart

/-- The user, who gives the same answer whenever asked. -/
def prompt (answer : Bool) : StateM Bench Bool :=
  modifyGet fun bench => (answer, { bench with prompts := bench.prompts + 1 })

/-- The clock, which stands still. -/
def clock : StateM Bench Instant := return (← get).now

def exportDisk : Disk (StateM Bench) := FileTree.disk exportsPart

/-- The start of a session. -/
def start (around : Surroundings) (quota : Nat) (zone : Zone) (answer : Bool) :
    ExceptT ResolverError (StateM Bench) (Initialization (StateM Bench)) :=
  Resolver.start (host around) settingsStore quota zone (prompt answer)

/-- A library over the resolver of a session. -/
def library (resolver : Resolver (StateM Bench)) (codec : Codec) (width : Nat) :
    Library (StateM Bench) :=
  ⟨resolver, codec, width, clock, exportDisk⟩

/-- Whether bytes start with the characters of a text. -/
def startsWith (content : ByteArray) (text : String) : Bool :=
  text.toUTF8.data.toList.isPrefixOf content.data.toList

/-- A codec that makes its calls visible: thumbnails tell what was asked for, and a mark is put in
front of images set upright. Media that start with `bad` cannot be decoded, and thumbnails of media
that start with `panic` crash. -/
def markingCodec (videos : Bool) : Codec where
  supports kind := videos || !kind.isVideo
  thumbnail media kind width :=
    if startsWith media "panic" then .crashed
    else if startsWith media "bad" then .refused .undecodable
    else .made (kind.text ++ "@" ++ toString width ++ ":" ++ toString media.size).toUTF8
  orient image :=
    if startsWith image "bad" then .error .undecodable else .ok ("oriented:".toUTF8 ++ image)

end Bench

end CameraRoll
