/-!
Why media could not be processed.
-/

namespace CameraRoll

/-- Why media could not be processed. -/
inductive MediaError where
  | undecodable
  /-- The decoded picture has no pixels. -/
  | empty
  | unencodable
  /-- The kind of media is none that can be decoded. -/
  | unsupported (kind : String)
  /-- The work was broken off. -/
  | interrupted
  deriving DecidableEq, Repr

namespace MediaError

def message : MediaError → String
  | .undecodable => "invalid or corrupted media"
  | .empty => "media has no pixels"
  | .unencodable => "failed to encode output"
  | .unsupported kind => "unsupported media: " ++ kind
  | .interrupted => "media worker failed"

def isRetryable : MediaError → Bool
  | .interrupted => true
  | _ => false

end MediaError

end CameraRoll
