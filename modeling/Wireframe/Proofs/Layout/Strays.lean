import Wireframe.Proofs.Page.Existence

/-!
# Trees with stray values

Where elements should stand in a tree there may be values of any other type, of which nothing is
known but how they are shown. A tree is rendered if there are none, and else refused for the first
of them in the order of the tree (`Canvas.renderAny_rejects`). How the tree is nested does not
matter, nor whether what stands beside a value has source. It may be nested as deep as it will: the
calls that an interpreter allows are not counted.
-/
namespace Wireframe

variable {σ : Type}

/-- The value stands in the tree where an element should, and all that comes before it in the order
of the tree are elements. -/
def Layout.FirstStray (tree : Layout (Leaf σ)) (value : σ) : Prop :=
  ∃ before after, tree.leaves = before ++ .stray value :: after ∧
    ∀ leaf ∈ before, ∃ d, leaf = .element d

namespace Canvas

variable {canvas : Canvas} {shown : σ → Text}

/-! ## Leaves -/

/-- The fault of an element on a canvas that lacks a side, and of a stray value on any. -/
def leafFault (shown : σ → Text) : Leaf σ → Fault
  | .element _ => .wholeTooLarge
  | .stray value => .strayNode (shown value)

theorem exists_leafSource_eq_ok (shown : σ → Text) (hsides : canvas.HasSides) (d : Detection) :
    ∃ text, canvas.leafSource shown (.element d) = .ok text := by
  obtain ⟨width, height, hwidth, hheight⟩ := hsides.exists_eq_some
  exact ⟨_, fragment_code hwidth hheight d⟩

theorem leafSource_eq_error_iff (hsides : canvas.HasSides) {leaf : Leaf σ} {fault : Fault} :
    canvas.leafSource shown leaf = .error fault ↔
      ∃ value, leaf = .stray value ∧ fault = .strayNode (shown value) := by
  cases leaf with
  | element d =>
    obtain ⟨text, htext⟩ := exists_leafSource_eq_ok shown hsides d
    simp [htext]
  | stray value => simp [leafSource, eq_comm]

theorem leafSource_of_not_hasSides (hsides : ¬canvas.HasSides) (leaf : Leaf σ) :
    canvas.leafSource shown leaf = .error (leafFault shown leaf) := by
  cases leaf with
  | element d => exact fragment_code_of_missing (not_hasSides_iff.1 hsides) d
  | stray value => rfl

/-! ## Trees -/

variable {tree : Layout (Leaf σ)}

/-- A tree is refused for a leaf without source that has none before it. -/
theorem renderAny_eq_error_iff {fault : Fault} :
    canvas.renderAny shown tree = .error fault ↔
      ∃ before leaf after, tree.leaves = before ++ leaf :: after ∧
        canvas.leafSource shown leaf = .error fault ∧
        ∀ other ∈ before, ∃ text, canvas.leafSource shown other = .ok text := by
  simp only [← fault?_eq_some_iff, ← fault?_eq_none_iff, renderAny, Layout.fault?_render,
    List.findSome?_eq_some_iff]

section Sides

variable (hsides : canvas.HasSides)

include hsides

theorem exists_leafSource_eq_ok_iff {leaf : Leaf σ} :
    (∃ text, canvas.leafSource shown leaf = .ok text) ↔ ∃ d, leaf = .element d := by
  cases leaf with
  | element d => simp [exists_leafSource_eq_ok shown hsides d]
  | stray value => simp [leafSource]

theorem renderAny_eq_error_iff_firstStray {fault : Fault} :
    canvas.renderAny shown tree = .error fault ↔
      ∃ value, tree.FirstStray value ∧ fault = .strayNode (shown value) := by
  rw [renderAny_eq_error_iff]
  constructor
  · rintro ⟨before, leaf, after, hleaves, hfault, hbefore⟩
    obtain ⟨value, rfl, rfl⟩ := (leafSource_eq_error_iff hsides).1 hfault
    exact ⟨value, ⟨before, after, hleaves, fun other hother =>
      (exists_leafSource_eq_ok_iff hsides).1 (hbefore other hother)⟩, rfl⟩
  · rintro ⟨value, ⟨before, after, hleaves, hbefore⟩, rfl⟩
    exact ⟨before, .stray value, after, hleaves, rfl, fun other hother =>
      (exists_leafSource_eq_ok_iff hsides).2 (hbefore other hother)⟩

theorem exists_renderAny_eq_ok_iff :
    (∃ text, canvas.renderAny shown tree = .ok text) ↔ ∀ value, Leaf.stray value ∉ tree.leaves := by
  rw [renderAny, Layout.exists_render_eq_ok_iff]
  constructor
  · intro h value hvalue
    obtain ⟨d, hd⟩ := (exists_leafSource_eq_ok_iff hsides).1 (h _ hvalue)
    cases hd
  · intro h leaf hleaf
    cases leaf with
    | element d => exact exists_leafSource_eq_ok shown hsides d
    | stray value => exact absurd hleaf (h value)

end Sides

/-- Without a side to measure by, the first leaf decides, whatever it is. -/
theorem renderAny_eq_error_iff_of_not_hasSides (hsides : ¬canvas.HasSides) {fault : Fault} :
    canvas.renderAny shown tree = .error fault ↔
      ∃ leaf after, tree.leaves = leaf :: after ∧ fault = leafFault shown leaf := by
  rw [renderAny_eq_error_iff]
  constructor
  · rintro ⟨before, leaf, after, hleaves, hfault, hbefore⟩
    rw [leafSource_of_not_hasSides hsides] at hfault
    cases before with
    | nil => exact ⟨leaf, after, hleaves, (Except.error.inj hfault).symm⟩
    | cons other before =>
      obtain ⟨text, htext⟩ := hbefore other List.mem_cons_self
      rw [leafSource_of_not_hasSides hsides] at htext
      cases htext
  · rintro ⟨leaf, after, hleaves, rfl⟩
    exact ⟨[], leaf, after, hleaves, leafSource_of_not_hasSides hsides leaf,
      fun other hother => absurd hother List.not_mem_nil⟩

/-- **Which trees are refused, and for which value.** A tree of any shape, with stray values of any
type at any of its leaves, is refused exactly if there is such a value; the message shows the first
one in the order of the tree. A tree without any has source. On a canvas that lacks a side elements
have no source either, so that there the first leaf counts. Trees of any depth are meant, and gaps
of any length: the limits of an interpreter are not counted. -/
theorem renderAny_rejects (shown : σ → Text) (canvas : Canvas) (tree : Layout (Leaf σ)) :
    (canvas.HasSides →
      ((∃ fault, canvas.renderAny shown tree = .error fault) ↔
        ∃ value, .stray value ∈ tree.leaves) ∧
      (∀ fault, canvas.renderAny shown tree = .error fault ↔
        ∃ value, tree.FirstStray value ∧ fault = .strayNode (shown value)) ∧
      ((∃ text, canvas.renderAny shown tree = .ok text) ↔ ∀ value, .stray value ∉ tree.leaves)) ∧
    (¬canvas.HasSides → ∀ fault, canvas.renderAny shown tree = .error fault ↔
      ∃ leaf after, tree.leaves = leaf :: after ∧ fault = leafFault shown leaf) ∧
    ∀ value, (Fault.strayNode (shown value)).message =
      .concat [Text.ofString "Not a layout node: ", shown value] := by
  refine ⟨fun hsides => ⟨?_, fun _ => renderAny_eq_error_iff_firstStray hsides,
    exists_renderAny_eq_ok_iff hsides⟩,
    fun hsides _ => renderAny_eq_error_iff_of_not_hasSides hsides, fun _ => rfl⟩
  have hok : (∃ text, canvas.renderAny shown tree = .ok text) ↔
      ∀ value, .stray value ∉ tree.leaves :=
    exists_renderAny_eq_ok_iff hsides
  cases hrender : canvas.renderAny shown tree with
  | ok text =>
    have hnone := hok.1 ⟨text, hrender⟩
    simpa using hnone
  | error fault =>
    have hsome : ¬∀ value, Leaf.stray value ∉ tree.leaves := fun h => by
      obtain ⟨text, htext⟩ := hok.2 h
      rw [hrender] at htext
      cases htext
    simpa using hsome

/-- Two stray values, the first in a row beside a status bar and after an empty row. -/
theorem renderAny_rejects_nested :
    let bar : Detection := ⟨.statusBar, ⟨.zero, .zero, .one, .one⟩, .one, none⟩
    let tree : Layout (Leaf Json) := .column [.row [], .row [.leaf (.element bar),
      .row [.leaf (.stray (.string [0x78]))]], .leaf (.stray .null)] 16 true
    let canvas := Canvas.ofSides .one .one
    canvas.HasSides ∧ tree.FirstStray (.string [0x78]) ∧
      canvas.renderAny Json.shown tree = .error (.strayNode (Json.string [0x78]).shown) ∧
      ¬Canvas.HasSides ⟨none, none⟩ ∧
      Canvas.renderAny Json.shown ⟨none, none⟩ tree = .error .wholeTooLarge := by
  intro bar tree canvas
  have hsides : canvas.HasSides := ⟨rfl, rfl⟩
  have hnone : ¬Canvas.HasSides ⟨none, none⟩ := by decide
  have hfirst : tree.FirstStray (.string [0x78]) :=
    ⟨[.element bar], [.stray .null], rfl, by simp⟩
  obtain ⟨hrejects, -⟩ := renderAny_rejects Json.shown canvas tree
  obtain ⟨-, hmissing, -⟩ := renderAny_rejects Json.shown ⟨none, none⟩ tree
  exact ⟨hsides, hfirst, ((hrejects hsides).2.1 _).2 ⟨_, hfirst, rfl⟩, hnone,
    (hmissing hnone _).2 ⟨.element bar, _, rfl, rfl⟩⟩

end Canvas

end Wireframe
