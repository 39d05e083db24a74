import CameraRoll.Text.Spans

/-!
Blank characters: those with the White_Space property, and trimming them off a text.
-/

namespace CameraRoll.Text

/-- Code points with the White_Space property. -/
def blankSpans : Spans := [
  (0x0009, 0x000D), (0x0020, 0x0020), (0x0085, 0x0085), (0x00A0, 0x00A0), (0x1680, 0x1680),
  (0x2000, 0x200A), (0x2028, 0x2029), (0x202F, 0x202F), (0x205F, 0x205F), (0x3000, 0x3000)]

/-- A character with the White_Space property. -/
def isBlank (c : Char) : Bool := blankSpans.holds c.toNat

/-- The text without the blanks at either end. -/
def trimBlanks (s : List Char) : List Char :=
  ((s.dropWhile isBlank).reverse.dropWhile isBlank).reverse

end CameraRoll.Text
