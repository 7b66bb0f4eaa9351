import Wireframe.Text.Blank
import Wireframe.Text.Lowercase

/-!
# The normal form of a label

Labels are compared in lower case and with one space where blanks, underscores and hyphens
separate words.
-/
namespace Wireframe

/-- What separates the words of a label. -/
def CodePoint.isSeparator (c : Nat) : Bool := isBlank c || c == 0x5F || c == 0x2D

namespace Text

/-- Every run of separators as one space; `inRun` says whether the text follows a separator. -/
def collapseFrom (inRun : Bool) : Text → Text
  | [] => []
  | c :: rest =>
    if CodePoint.isSeparator c then
      if inRun then collapseFrom true rest else CodePoint.space :: collapseFrom true rest
    else c :: collapseFrom false rest

def collapseSeparators (t : Text) : Text := collapseFrom false t

/-- The normal form in which labels are compared. -/
def normalLabel (t : Text) : Text := (collapseSeparators t.strip.lower).strip

end Text

end Wireframe
