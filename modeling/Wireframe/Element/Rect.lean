import Wireframe.Fault
import Wireframe.Number.Binary64

/-!
# Rectangles

A rectangle lies on an image whose sides count as `1`, with the origin at its top left corner. It
may lie partly or wholly outside, and its numbers need not be finite.
-/
namespace Wireframe

structure Rect where
  x : Binary64
  y : Binary64
  width : Binary64
  height : Binary64
  deriving DecidableEq

namespace Rect

def maxX (r : Rect) : Binary64 := r.x + r.width

def maxY (r : Rect) : Binary64 := r.y + r.height

/-- The rectangle between two corners. -/
def ofCorners (left top right bottom : Binary64) : Rect :=
  ⟨left, top, right - left, bottom - top⟩

/-- The rectangle between two corners in pixels, on an image of the given size. -/
def ofPixelCorners (left top right bottom imageWidth imageHeight : Binary64) : Except Fault Rect :=
  if imageWidth.le .zero || imageHeight.le .zero then .error .emptyImage
  else .ok ⟨left / imageWidth, top / imageHeight, (right - left) / imageWidth,
    (bottom - top) / imageHeight⟩

/-- The same rectangle measured from the bottom left corner of the image, and back. -/
def flipped (r : Rect) : Rect := { r with y := .one - r.y - r.height }

end Rect

end Wireframe
