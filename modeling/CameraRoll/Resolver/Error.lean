import CameraRoll.Library.File
import CameraRoll.Settings.Basic

/-!
Why a resolver failed. An error carries the error that caused it.
-/

namespace CameraRoll

/-- Why a resolver failed. -/
inductive ResolverError where
  /-- The private store could not be acquired. -/
  | internalUnavailable (cause : StoreError)
  /-- All pictures were moved to an external location that is gone now. -/
  | inconsistent
  /-- A picture could not be copied to the external location; those before it stay moved. -/
  | migration (cause : ResolverError)
  /-- The state of the migration could not be kept. -/
  | settings (cause : SettingsError)
  | absent (location : Location)
  | storage (cause : StoreError)
  /-- A file could not be copied out of the library; without a cause the disk refused. -/
  | exporting (cause : Option ResolverError)
  /-- Every name that comes after this one is taken. -/
  | noFreeName (name : String)
  deriving Repr

namespace ResolverError

def message : ResolverError → String
  | .internalUnavailable _ => "internal storage is unavailable"
  | .inconsistent => "external storage should be available"
  | .migration _ => "failed to migrate pictures"
  | .settings _ => "failed to persist migration state"
  | .absent location => location.text ++ " storage is not available"
  | .storage _ => "storage operation failed"
  | .exporting _ => "failed to export file"
  | .noFreeName name => "no free name after " ++ name

def isRetryable : ResolverError → Bool
  | .migration _ | .storage _ | .exporting _ => true
  | _ => false

end ResolverError

end CameraRoll
