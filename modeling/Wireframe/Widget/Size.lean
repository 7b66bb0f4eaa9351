import Wireframe.Element.Detection

/-!
# Sizes in pixels

Lengths on the image become whole pixels on a reference canvas. A side of the canvas comes from a
whole number of any size; one beyond the binary64 range cannot be multiplied with.
-/
namespace Wireframe

/-- The reference canvas. A side is `none` when it is a whole number beyond the binary64 range. -/
structure Canvas where
  width : Option Binary64
  height : Option Binary64
  deriving DecidableEq

namespace Canvas

/-- The greatest length in pixels, `2^31 - 1`. -/
def pixelLimit : Nat := 0x7FFFFFFF

/-- The whole number of pixels nearest to `value · reference`, the even one of two nearest; zero
for lengths that are not positive or not finite, and never more than `pixelLimit`. -/
def pixels (value reference : Binary64) : Nat :=
  match value * reference with
  | .finite false magnitude => min (roundQuotient magnitude.units unitsPerOne) pixelLimit
  | _ => 0

/-- The canvas with the given sides. -/
def ofSides (width height : Binary64) : Canvas := ⟨some width, some height⟩

/-- Width and height of a rectangle in pixels. -/
def extent (canvas : Canvas) (box : Rect) : Except Fault (Nat × Nat) :=
  match canvas.width, canvas.height with
  | some width, some height => .ok (pixels box.width width, pixels box.height height)
  | _, _ => .error .wholeTooLarge

end Canvas

end Wireframe
