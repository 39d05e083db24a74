import CameraRoll.Store.Basic

/-!
What a library asks of its host, and which of the host's volumes becomes the external location.
-/

namespace CameraRoll

/-- The operations of a host. Volumes are known by their identifiers. -/
structure Host (m : Type → Type) where
  /-- The private store, limited to a number of bytes. -/
  internalStore : (quota : Nat) → ExceptT StoreError m (Store m)
  /-- The volumes that exist now; `none` if the host knows no volumes at all. -/
  volumes : m (Option (List String))
  /-- The store in a volume or in one of its directories; `none` if that does not exist. -/
  openVolume : (volume : String) → (subdirectory : Option String) →
    ExceptT StoreError m (Option (Store m))

namespace Host

/-- What the identifier of a volume with plain downloads contains. -/
def downloadsPattern : String := "downloads:Downloads"

/-- What the identifier of a volume with all of the user's files contains. -/
def userFilesPattern : String := "downloads:MyFiles"

/-- The directory for downloads among all of the user's files. -/
def downloadsDirectory : String := "Downloads"

/-- Whether one list of characters stands in another. -/
def occursIn (part : List Char) : List Char → Bool
  | [] => part.isEmpty
  | c :: rest => part.isPrefixOf (c :: rest) || occursIn part rest

/-- Whether an identifier contains a pattern. -/
def matchesPattern (volume pattern : String) : Bool := occursIn pattern.toList volume.toList

/-- A volume that can hold the external location. -/
def isSuitable (volume : String) : Bool :=
  matchesPattern volume downloadsPattern || matchesPattern volume userFilesPattern

/-- The directory of a volume that becomes the external location. -/
def subdirectoryOf (volume : String) : Option String :=
  if matchesPattern volume userFilesPattern then some downloadsDirectory else none

variable {m : Type → Type} [Monad m]

/-- The external location: in the first suitable volume. A volume that cannot be opened counts as
none, and no other is tried. -/
def probeExternal (host : Host m) : m (Option (Store m)) := do
  match (← host.volumes).bind (·.find? isSuitable) with
  | none => return none
  | some volume =>
    match ← (host.openVolume volume (subdirectoryOf volume)).run with
    | .ok store => return store
    | .error _ => return none

end Host

end CameraRoll
