import Wireframe.Element.Detection
import Wireframe.Number.Decimal

/-!
# A sample drawing

A login form on a sheet of 375 by 667 pixels.
-/
namespace Wireframe

/-- An element of the sample in whole pixels. -/
structure SampleElement where
  kind : Kind
  label : Text
  left : Nat
  top : Nat
  width : Nat
  height : Nat

namespace SampleElement

/-- The binary64 number of a small whole number. -/
def number (n : Nat) : Binary64 := .ofDecimal false n 0

/-- The rectangle of an element on a sheet of the given size. -/
def rect (e : SampleElement) (sheetWidth sheetHeight : Nat) : Rect :=
  ⟨number e.left / number sheetWidth, number e.top / number sheetHeight,
    number e.width / number sheetWidth, number e.height / number sheetHeight⟩

end SampleElement

def loginFormElements : List SampleElement := [
  ⟨.image, "Logo", 137, 50, 100, 100⟩,
  ⟨.text, "Welcome Back", 87, 180, 200, 40⟩,
  ⟨.textField, "Email", 40, 260, 295, 50⟩,
  ⟨.textField, "Password", 40, 330, 295, 50⟩,
  ⟨.button, "Sign In", 40, 420, 295, 55⟩,
  ⟨.text, "Forgot Password?", 100, 495, 175, 30⟩,
  ⟨.button, "Create Account", 40, 550, 295, 55⟩]

/-- The detections of the sample, all with confidence 0.9. -/
def loginForm : List Detection :=
  loginFormElements.map fun e =>
    ⟨e.kind, e.rect 375 667, .ofDecimal false 9 (-1), some e.label⟩

end Wireframe
