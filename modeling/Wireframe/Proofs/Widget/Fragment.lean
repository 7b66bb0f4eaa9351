import Wireframe.Proofs.Layout.Source
import Wireframe.Proofs.Widget.Template

/-!
# Source of detections

On a canvas with both sides every detection has source; on any other none has. The source is that
of the template of its kind, so that a label shows in its literals only.
-/
namespace Wireframe

open Dart

/-- The texts that the widget of a detection shows. -/
def Detection.shownTexts (d : Detection) : List Text := d.kind.shown d.caption

namespace Canvas

/-- The source of a detection on a canvas with the given sides. -/
def leafText (width height : Binary64) (d : Detection) : Text :=
  Widget.source ⟨d.caption, pixels d.box.width width, pixels d.box.height height⟩ d.kind

section Sides

variable {canvas : Canvas} {width height : Binary64} (hwidth : canvas.width = some width)
  (hheight : canvas.height = some height)

include hwidth hheight

theorem fragment_code (d : Detection) :
    (canvas.fragment d).map (·.code) = .ok (leafText width height d) := by
  rw [fragment, extent, hwidth, hheight]
  rfl

theorem render_eq_source (tree : Layout Detection) :
    canvas.render tree = .ok (tree.source (leafText width height)) :=
  Layout.render_eq_ok tree fun d _ => fragment_code hwidth hheight d

theorem render_map_eq_source {α : Type} (t : Layout α) (view : α → Detection) :
    canvas.render (t.map view) = .ok (t.source fun a => leafText width height (view a)) := by
  rw [render, Layout.render_map]
  exact Layout.render_eq_ok t fun a _ => fragment_code hwidth hheight (view a)

end Sides

theorem fragment_code_of_missing {canvas : Canvas}
    (h : canvas.width = none ∨ canvas.height = none) (d : Detection) :
    (canvas.fragment d).map (·.code) = .error .wholeTooLarge := by
  rw [fragment, extent]
  rcases h with h | h
  · rw [h]
    rfl
  · rw [h]
    cases canvas.width <;> rfl

/-- A canvas has both sides, or it lacks one. -/
theorem sides_cases (canvas : Canvas) :
    (∃ width height, canvas.width = some width ∧ canvas.height = some height) ∨
      (canvas.width = none ∨ canvas.height = none) := by
  cases hwidth : canvas.width with
  | none => exact .inr (.inl rfl)
  | some width =>
    cases hheight : canvas.height with
    | none => exact .inr (.inr rfl)
    | some height => exact .inl ⟨width, height, rfl, rfl⟩

theorem wellFormed_leafText (width height : Binary64) (d : Detection) :
    WellFormed (leafText width height d) := Widget.wellFormed_source _ d.kind

theorem skeleton_leafText_label (width height : Binary64) (d : Detection) (label : Option Text) :
    skeleton (leafText width height { d with label := label }) =
      skeleton (leafText width height d) :=
  Widget.skeleton_source ⟨d.caption, pixels d.box.width width, pixels d.box.height height⟩ _ d.kind

theorem literals_leafText (width height : Binary64) (d : Detection) :
    literals (leafText width height d) = d.shownTexts.map DartLiteral.escape :=
  Widget.literals_source _ d.kind

theorem exists_leafText_of_fragment_eq_ok {canvas : Canvas} {d : Detection} {f : Fragment}
    (h : canvas.fragment d = .ok f) : ∃ width height, f.code = leafText width height d := by
  rcases sides_cases canvas with ⟨width, height, hwidth, hheight⟩ | hmissing
  · have hcode := fragment_code hwidth hheight d
    rw [h] at hcode
    exact ⟨width, height, Except.ok.inj hcode⟩
  · have hcode := fragment_code_of_missing hmissing d
    rw [h] at hcode
    cases hcode

theorem fragment_eq_ok {canvas : Canvas} {d : Detection} {f : Fragment}
    (h : canvas.fragment d = .ok f) :
    WellFormed f.code ∧ literals f.code = d.shownTexts.map DartLiteral.escape := by
  obtain ⟨width, height, hcode⟩ := exists_leafText_of_fragment_eq_ok h
  rw [hcode]
  exact ⟨wellFormed_leafText width height d, literals_leafText width height d⟩

/-- What is rendered is source made for some sides. -/
theorem exists_source_of_render_eq_ok {canvas : Canvas} {tree : Layout Detection} {body : Text}
    (h : canvas.render tree = .ok body) :
    ∃ width height, body = tree.source (leafText width height) := by
  rcases sides_cases canvas with ⟨width, height, hwidth, hheight⟩ | hmissing
  · rw [render_eq_source hwidth hheight] at h
    exact ⟨width, height, (Except.ok.inj h).symm⟩
  · -- A tree without detections has the same source for any sides.
    have hleaves : ∀ d ∈ tree.leaves,
        (canvas.fragment d).map (·.code) = .ok (leafText .zero .zero d) := by
      intro d hd
      obtain ⟨code, hcode⟩ := Layout.exists_render_eq_ok_iff.1 ⟨body, h⟩ d hd
      rw [fragment_code_of_missing hmissing] at hcode
      cases hcode
    rw [render, Layout.render_eq_ok tree hleaves] at h
    exact ⟨.zero, .zero, (Except.ok.inj h).symm⟩

theorem wellFormed_of_render_eq_ok {canvas : Canvas} {tree : Layout Detection} {body : Text}
    (h : canvas.render tree = .ok body) : WellFormed body := by
  obtain ⟨width, height, rfl⟩ := exists_source_of_render_eq_ok h
  exact Layout.wellFormed_source (wellFormed_leafText width height) tree

end Canvas

end Wireframe
