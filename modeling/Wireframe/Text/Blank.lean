import Wireframe.Text.Basic

/-!
# White space

Two sets are in use. `isWhiteSpace` is the property `White_Space` of Unicode: it surrounds a
number that is read from a text. `isBlank` adds the four information separators `0x1C` to `0x1F`:
it decides what is stripped from labels, what separates words and which lines are blank.
-/
namespace Wireframe

/-- The property `White_Space`. -/
def CodePoint.isWhiteSpace : Nat → Bool :=
  within [(0x09, 0x0D), (0x20, 0x20), (0x85, 0x85), (0xA0, 0xA0), (0x1680, 0x1680),
    (0x2000, 0x200A), (0x2028, 0x2029), (0x202F, 0x202F), (0x205F, 0x205F), (0x3000, 0x3000)]

/-- White space or an information separator. -/
def CodePoint.isBlank (c : Nat) : Bool := isWhiteSpace c || within [(0x1C, 0x1F)] c

namespace Text

/-- Without the blanks at both ends. -/
def strip (t : Text) : Text := t.trimBy CodePoint.isBlank

def isBlank (t : Text) : Bool := t.all CodePoint.isBlank

end Text

end Wireframe
