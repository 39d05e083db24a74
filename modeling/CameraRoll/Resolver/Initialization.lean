import CameraRoll.Host.Basic
import CameraRoll.Resolver.Migration

/-!
Acquiring both locations at the start of a session. The first time that there is an external
location, the user is asked once, and all pictures are moved there; settings remember both.
-/

namespace CameraRoll

/-- What comes of starting a session. -/
inductive Initialization (m : Type → Type) where
  | ready (resolver : Resolver m)
  /-- The user does not want pictures to be moved; nothing has changed. -/
  | declined

namespace Resolver

variable {m : Type → Type} [Monad m]

/-- A flag of the settings; one that cannot be read counts as not set. -/
def flagOf (settings : Settings m) (key : String) : m Bool := do
  match ← (settings.get key false).run with
  | .ok value => return value
  | .error _ => return false

/-- Sets a flag of the settings. -/
def setFlag (settings : Settings m) (key : String) : ExceptT ResolverError m Unit :=
  (settings.set key true).adapt .settings

/-- Whether the private store holds anything but thumbnails. -/
def hasInternalPictures (resolver : Resolver m) : ExceptT ResolverError m Bool :=
  return (← resolver.enumerate .internal).any (!·.isThumbnail)

/-- Moves the pictures, and remembers it. -/
def consolidate (resolver : Resolver m) (settings : Settings m) :
    ExceptT ResolverError m (Initialization m) := do
  resolver.migrate
  setFlag settings Settings.consolidatedKey
  return .ready resolver

/-- Asks the user unless consent is on record, and consolidates if it is given. -/
def consolidateWithConsent (resolver : Resolver m) (settings : Settings m) (consented : Bool)
    (prompt : m Bool) : ExceptT ResolverError m (Initialization m) := do
  if consented then resolver.consolidate settings
  else if ← prompt then do
    setFlag settings Settings.consentKey
    resolver.consolidate settings
  else return .declined

/-- Brings acquired locations into a consistent state. -/
def settle (resolver : Resolver m) (settings : Settings m) (consented consolidated : Bool)
    (prompt : m Bool) : ExceptT ResolverError m (Initialization m) := do
  if resolver.hasExternal then
    if consolidated then return .ready resolver
    else if ← resolver.hasInternalPictures then
      resolver.consolidateWithConsent settings consented prompt
    else do
      setFlag settings Settings.consentKey
      setFlag settings Settings.consolidatedKey
      return .ready resolver
  else if consolidated then throw .inconsistent
  else return .ready resolver

/-- Starts a session: acquires both locations, reads the flags, and moves pictures if that is
due. The prompt is shown at most once. -/
def start (host : Host m) (settings : Settings m) (quota : Nat) (zone : Calendar.Zone)
    (prompt : m Bool) : ExceptT ResolverError m (Initialization m) := do
  let internal ← (host.internalStore quota).run
  let external ← ExceptT.lift host.probeExternal
  let consented ← ExceptT.lift (flagOf settings Settings.consentKey)
  let consolidated ← ExceptT.lift (flagOf settings Settings.consolidatedKey)
  match internal with
  | .error e => throw (.internalUnavailable e)
  | .ok store =>
    let resolver : Resolver m := ⟨store, external, zone⟩
    resolver.settle settings consented consolidated prompt

end Resolver

end CameraRoll
