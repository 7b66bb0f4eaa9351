import Wireframe.Element.Kind
import Wireframe.Element.Rect

/-!
# Detections

An element that was found in a drawing, and the text that its widget shows.
-/
namespace Wireframe

structure Detection where
  kind : Kind
  box : Rect
  confidence : Binary64
  label : Option Text
  deriving DecidableEq

namespace Detection

/-- The label without blanks at its ends; the title of the kind where nothing is left of it. -/
def caption (d : Detection) : Text :=
  match d.label.map Text.strip with
  | some (c :: rest) => c :: rest
  | _ => d.kind.title

end Detection

end Wireframe
