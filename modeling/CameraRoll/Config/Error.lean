/-!
Why a configuration could not be used.
-/

namespace CameraRoll

/-- Why a configuration could not be used. -/
inductive ConfigError where
  /-- A source could not be read, or gives a value of a wrong kind. -/
  | unusable
  /-- The file that was asked for is not there. -/
  | missing (path : String)
  /-- A value is of the right kind but makes no sense. -/
  | invalid (reason : String)
  deriving DecidableEq, Repr

namespace ConfigError

def message : ConfigError → String
  | .unusable => "failed to load configuration"
  | .missing path => "configuration file not found: " ++ path
  | .invalid reason => "invalid configuration: " ++ reason

/-- Trying again does not help. -/
def isRetryable (_ : ConfigError) : Bool := false

end ConfigError

end CameraRoll
