/-!
Flags that outlive a session. Settings are a record of two operations in some monad; where the
flags are kept is up to the record.
-/

namespace CameraRoll

/-- Why settings could not be used. -/
inductive SettingsError where
  | unreadable
  | unwritable
  /-- What is kept is no JSON object. -/
  | malformed
  deriving DecidableEq, Repr

namespace SettingsError

def message : SettingsError → String
  | .unreadable => "failed to read settings"
  | .unwritable => "failed to write settings"
  | .malformed => "settings are malformed"

def isRetryable : SettingsError → Bool
  | .malformed => false
  | _ => true

end SettingsError

/-- The operations of settings. -/
structure Settings (m : Type → Type) where
  /-- The flag under a key, or the default if there is none. -/
  get : (key : String) → (default : Bool) → ExceptT SettingsError m Bool
  /-- Keeps a flag under a key. -/
  set : (key : String) → (value : Bool) → ExceptT SettingsError m Unit

namespace Settings

/-- Key of the consent: pictures may be moved out of the internal location. -/
def consentKey : String := "ack_migrate_pictures"

/-- Key of the state: every picture is in the external location. -/
def consolidatedKey : String := "media_consolidated"

end Settings

end CameraRoll
