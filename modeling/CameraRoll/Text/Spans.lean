/-!
Sets of characters written as ascending spans of code points.
-/

namespace CameraRoll.Text

/-- Ascending, disjoint spans of code points, both ends included. -/
abbrev Spans := List (Nat × Nat)

/-- Whether a code point is in one of the spans; the search stops at the first span above it. -/
def Spans.holds : Spans → Nat → Bool
  | [], _ => false
  | (first, last) :: rest, code =>
    if code < first then false else code ≤ last || Spans.holds rest code

end CameraRoll.Text
