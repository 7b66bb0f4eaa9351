import Wireframe.Proofs.Page.Scaffold
import Wireframe.Proofs.Widget.Fragment

/-!
# Confinement of labels

Labels are given from outside and may hold anything. In the page of a tree a label cannot be seen
outside of literals, and the page is well-formed: it can be encoded, every literal is closed on its
line as a reader of Dart counts lines, and the brackets match.
-/
namespace Wireframe

open Dart

namespace Page

/-- The page around the source of a tree, with a class name and one to fall back on. -/
def ofTree (canvas : Canvas) (given fallback : Text) (tree : Layout Detection) :
    Except Fault Text :=
  (canvas.render tree).map fun body => enclose given body fallback

/-- The tree with other labels. -/
def relabelled {α : Type} (t : Layout α) (view : α → Detection) (label : α → Option Text) :
    Layout Detection := t.map fun a => { view a with label := label a }

variable {α : Type}

theorem ofTree_relabelled {canvas : Canvas} {width height : Binary64}
    (hwidth : canvas.width = some width) (hheight : canvas.height = some height)
    (given fallback : Text) (t : Layout α) (view : α → Detection) (label : α → Option Text) :
    ofTree canvas given fallback (relabelled t view label) =
      .ok (enclose given
        (t.source fun a => Canvas.leafText width height { view a with label := label a })
        fallback) := by
  rw [ofTree, relabelled, Canvas.render_map_eq_source hwidth hheight]
  rfl

theorem wellFormed_of_ofTree_eq_ok {canvas : Canvas} {given fallback : Text}
    (hfallback : ∀ c ∈ fallback, CodePoint.isAlphanumeric c = true) {tree : Layout Detection}
    {source : Text} (h : ofTree canvas given fallback tree = .ok source) : WellFormed source := by
  rw [ofTree] at h
  cases hbody : canvas.render tree with
  | error fault => rw [hbody] at h; cases h
  | ok body =>
    rw [hbody] at h
    cases h
    exact wellFormed_enclose given hfallback (Canvas.wellFormed_of_render_eq_ok hbody)

/-- **Labels are confined to literals.** For two labellings of a tree, on any canvas and under any
page name, the pages have one skeleton, or both fail in the same way; and every page is
well-formed. -/
theorem ofTree_confined (canvas : Canvas) (given default : Text) (t : Layout α)
    (view : α → Detection) (first second : α → Option Text) :
    let page (label : α → Option Text) :=
      ofTree canvas given (PageName.ofText default PageName.standard) (relabelled t view label)
    (page first).map skeleton = (page second).map skeleton ∧
      ∀ source, page first = .ok source → WellFormed source := by
  intro page
  have hfallback : ∀ c ∈ PageName.ofText default PageName.standard,
      CodePoint.isAlphanumeric c = true := PageName.mem_ofText PageName.mem_standard
  refine ⟨?_, fun source h => wellFormed_of_ofTree_eq_ok hfallback h⟩
  rcases canvas.sides_cases with ⟨width, height, hwidth, hheight⟩ | hmissing
  · have hleaf (label : α → Option Text) (a : α) :
        WellFormed (Canvas.leafText width height { view a with label := label a }) :=
      Canvas.wellFormed_leafText width height _
    have hskeleton (label : α → Option Text) :
        skeleton (t.source fun a => Canvas.leafText width height { view a with label := label a }) =
          t.source fun a => skeleton (Canvas.leafText width height (view a)) := by
      rw [Layout.skeleton_source fun a => (hleaf label a).toSealed]
      simp only [Canvas.skeleton_leafText_label]
    have hpages := skeleton_enclose given hfallback (Layout.wellFormed_source (hleaf first) t)
      (Layout.wellFormed_source (hleaf second) t) ((hskeleton first).trans (hskeleton second).symm)
    simp only [page, ofTree_relabelled hwidth hheight, Except.map, hpages]
  · -- No leaf has source, so the labels do not even matter for the fault.
    have hfault (label : α → Option Text) :
        canvas.render (relabelled t view label) =
          t.render fun _ => Except.error Fault.wholeTooLarge := by
      rw [Canvas.render, relabelled, Layout.render_map]
      simp only [Canvas.fragment_code_of_missing hmissing]
    simp only [page, ofTree, hfault]

/-- A label that closes its literal, breaks the line and cannot be encoded, next to a harmless one,
in a row within a column. -/
theorem ofTree_hostile_label :
    let t : Layout Nat := .column [.row [.leaf 0, .leaf 1], .leaf 2] 16 false
    let view (_ : Nat) : Detection := ⟨.textField, ⟨.zero, .zero, .one, .one⟩, .one, none⟩
    let label : Text := Text.ofString "');\n\x7d //$\x7bx\x7d\\" ++ [0x0B, 0x2028, 0xD800]
    let hostile (n : Nat) : Option Text := if n = 1 then some label else none
    let page (label : Nat → Option Text) :=
      ofTree (.ofSides .one .one) "Login" (PageName.ofText [] PageName.standard)
        (relabelled t view label)
    ∃ source, page hostile = .ok source ∧ WellFormed source ∧
      (page fun _ => none).map skeleton = .ok (skeleton source) := by
  intro t view label hostile page
  have hconfined := ofTree_confined (.ofSides .one .one) "Login" [] t view hostile fun _ => none
  have hskeleton : (page hostile).map skeleton = (page fun _ => none).map skeleton := hconfined.1
  have hpage : page hostile = .ok _ := ofTree_relabelled rfl rfl "Login" _ t view hostile
  refine ⟨_, hpage, hconfined.2 _ hpage, ?_⟩
  rw [← hskeleton, hpage]
  rfl

end Page

end Wireframe
