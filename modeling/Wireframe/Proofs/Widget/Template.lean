import Wireframe.Proofs.Dart.Blocks
import Wireframe.Widget.Render

/-!
# Source of templates

Every template is well-formed source whatever text it shows, its skeleton does not depend on the
text, and its literals are the texts that its kind shows.
-/
namespace Wireframe

open Dart

namespace Kind

/-- The texts that the template of a kind shows for one text. -/
def shown (text : Text) : Kind → List Text
  | .button | .text | .checkbox | .switch => [text]
  | .textField => [text, Text.ofString "Enter " ++ text.lower]
  | _ => []

end Kind

namespace Widget

/-- A template fills in texts and numbers only. -/
theorem isFree_block (w : Widget) (kind : Kind) :
    ∀ line ∈ w.block kind, ∀ p ∈ line, p.isFree = true := by
  have hfree : (w.block kind).all (·.all Piece.isFree) = true := by cases kind <;> rfl
  intro line hline
  exact List.all_eq_true.1 (List.all_eq_true.1 hfree line hline)

theorem filled_block (w : Widget) (kind : Kind) :
    ∀ line ∈ w.block kind, ∀ p ∈ line, p.Filled := fun line hline p hp =>
  Piece.filled_of_isFree (isFree_block w kind line hline p hp)

theorem isFrame_block (w : Widget) (kind : Kind) :
    Block.isFrame (Block.fixed (w.block kind)) = true := by
  cases kind <;> exact Block.isFrame_of_spelled (by repeat' constructor) (by decide +kernel)

theorem wellFormed_source (w : Widget) (kind : Kind) : WellFormed (w.source kind) :=
  Block.wellFormed_source (filled_block w kind) (isFrame_block w kind)

/-- No text can change the source around it. -/
theorem skeleton_source (w : Widget) (text : Text) (kind : Kind) :
    skeleton (Widget.source { w with text := text } kind) = skeleton (w.source kind) := by
  have houtline : Block.outline (block { w with text := text } kind) =
      Block.outline (w.block kind) := by
    cases kind <;> rfl
  have hchanged := Block.skeleton_source (filled_block { w with text := text } kind)
    (isFrame_block _ kind)
  have h := Block.skeleton_source (filled_block w kind) (isFrame_block w kind)
  rw [source, source, hchanged, h, houtline]

theorem literals_source (w : Widget) (kind : Kind) :
    literals (w.source kind) = (kind.shown w.text).map DartLiteral.escape := by
  rw [source, Block.literals_source (filled_block w kind) (isFrame_block w kind)]
  cases kind <;> rfl

end Widget

end Wireframe
