import CameraRoll.Media.Error
import CameraRoll.Resolver.Error

/-!
Why a catalog failed. An error carries the error that caused it.
-/

namespace CameraRoll

/-- Why a catalog failed. -/
inductive CatalogError where
  | storage (cause : ResolverError)
  | media (cause : MediaError)
  /-- The catalog could not be loaded, and is not loaded again. -/
  | loadFailed
  | exporting (cause : ResolverError)
  /-- The work was broken off. -/
  | interrupted
  deriving Repr

namespace CatalogError

def message : CatalogError → String
  | .storage _ => "storage operation failed"
  | .media _ => "failed to generate thumbnail"
  | .loadFailed => "picture catalog failed to load"
  | .exporting _ => "failed to export picture"
  | .interrupted => "catalog task failed"

def isRetryable : CatalogError → Bool
  | .storage _ | .exporting _ => true
  | _ => false

end CatalogError

end CameraRoll
