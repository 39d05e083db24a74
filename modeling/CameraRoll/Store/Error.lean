/-!
Why a store refused, and what that means for the caller.
-/

namespace CameraRoll

/-- Why a store refused; most causes carry the name of the file. -/
inductive StoreError where
  | notFound (name : String)
  | permissionDenied (name : String)
  | alreadyExists (name : String)
  /-- The disk below failed, in its own words. -/
  | io (reason : String)
  /-- The name is empty, holds a separator, or leads out of the store. -/
  | invalidName (name : String)
  /-- The file would not fit: `used` counts all other files. -/
  | quotaExceeded (name : String) (quota used requested : Nat)
  /-- A failure of the store's own, in its own words. -/
  | backend (reason : String)
  deriving DecidableEq, Repr

namespace StoreError

def message : StoreError → String
  | .notFound name => "file not found: " ++ name
  | .permissionDenied name => "permission denied: " ++ name
  | .alreadyExists name => "file already exists: " ++ name
  | .io reason => "I/O error: " ++ reason
  | .invalidName name => "invalid file name: " ++ name
  | .quotaExceeded name quota used requested =>
    s!"quota of {quota} bytes exceeded writing {name} ({requested} bytes requested, {used} bytes used)"
  | .backend reason => "backend error: " ++ reason

def isRetryable : StoreError → Bool
  | .io _ | .backend _ => true
  | _ => false

/-- The file is absent, which most callers do not count as a failure. -/
def isNotFound : StoreError → Bool
  | .notFound _ => true
  | _ => false

end StoreError

end CameraRoll
