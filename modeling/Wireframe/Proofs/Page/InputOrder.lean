import Wireframe.Page.Generator
import Wireframe.Proofs.Number.Rounding
import Wireframe.Proofs.Reading.NormalForm

/-!
# The order of the input

What a page shows of a detection is told by its key, so detections that tie render alike
(`fragment_normal`) and a page is the same for every order of its detections.
-/
namespace Wireframe

/-! ## Sizes see normal forms only -/

namespace Canvas

/-- A length of zero units has no pixels on any canvas. -/
theorem pixels_finite_zero (negative : Bool) (m : Magnitude) (hm : m.units = 0)
    (reference : Binary64) : pixels (.finite negative m) reference = 0 := by
  rw [pixels, Binary64.mul_eq]
  cases reference with
  | nan => rfl
  | infinite b => rw [Binary64.mul, if_pos hm]
  | finite b n =>
    rw [Binary64.mul, hm, Nat.zero_mul, Binary64.ofQuotient_zero_left]
    cases negative != b
    · exact congrArg (min · pixelLimit) (roundQuotient_zero_left unitsPerOne)
    · rfl

theorem pixels_eq_zero {x : Binary64} (h : x.orZero.units = 0) (reference : Binary64) :
    pixels x reference = 0 := by
  cases x with
  | nan => cases reference <;> rfl
  | infinite a =>
    rw [pixels, Binary64.mul_eq]
    cases reference with
    | nan => rfl
    | infinite b => rfl
    | finite b n => by_cases hn : n.units = 0 <;> simp [Binary64.mul, hn]
  | finite a m =>
    have hm : m.units = 0 := by
      cases a <;> simpa [Binary64.orZero, Binary64.isFinite, Binary64.units] using h
    exact pixels_finite_zero a m hm reference

theorem pixels_normal (x reference : Binary64) :
    pixels x.normal reference = pixels x reference := by
  unfold Binary64.normal
  split
  · rename_i h
    have hzero : Binary64.zero.orZero.units = 0 := Binary64.units_zero
    rw [pixels_eq_zero h, pixels_eq_zero hzero]
  · rfl

theorem extent_normal (canvas : Canvas) (d : Detection) :
    canvas.extent d.normal.box = canvas.extent d.box := by
  unfold extent
  split
  · rw [Detection.normal, pixels_normal, pixels_normal]
  · rfl

/-- Detections that tie have the same widget. -/
theorem fragment_normal (canvas : Canvas) (d : Detection) :
    canvas.fragment d.normal = canvas.fragment d := by
  rw [fragment, fragment, extent_normal, Detection.caption_normal]
  rfl

theorem render_map_normal (canvas : Canvas) (tree : Layout Detection) :
    canvas.render (tree.map Detection.normal) = canvas.render tree := by
  rw [render, render, Layout.render_map]
  simp only [fragment_normal]

end Canvas

/-! ## Pages -/

namespace Generator

/-- **The order of the input is irrelevant.** A generator makes the same page, with the same name,
source and counts, of every permutation of the detections. -/
theorem generate_perm (g : Generator) (name : Option Text) {first second : List Detection}
    (h : first.Perm second) : g.generate first name = g.generate second name := by
  have hrows : (g.rows first).map (List.map Detection.normal) =
      (g.rows second).map (List.map Detection.normal) :=
    map_groupRows_of_perm g.rowThreshold g.rowStrategy h
  have hbody : g.body (Layout.ofRows (g.rows first) g.columnGap) =
      g.body (Layout.ofRows (g.rows second) g.columnGap) := by
    rw [body, body, ← Canvas.render_map_normal, Layout.map_ofRows, hrows, ← Layout.map_ofRows,
      Canvas.render_map_normal]
  have hcount : (g.rows first).length = (g.rows second).length := by
    simpa using congrArg List.length hrows
  simp only [generate, hbody, hcount, h.length_eq]

/-- Two different detections that tie, in both orders. -/
theorem generate_swap_tied :
    let unplaced : Detection := ⟨.text, ⟨.nan, .zero, .infinite true, .zero⟩, .one, none⟩
    let unlabelled : Detection := ⟨.text, ⟨.zero, .infinite false, .nan, .zero⟩, .one, some []⟩
    let g : Generator := ⟨.ofSides .one .one, .nan, .anchored, 16, 5, PageName.standard⟩
    unplaced ≠ unlabelled ∧ unplaced.key = unlabelled.key ∧
      [unplaced, unlabelled].Perm [unlabelled, unplaced] ∧
      g.generate [unplaced, unlabelled] none = g.generate [unlabelled, unplaced] none := by
  intro unplaced unlabelled g
  have hswap : [unplaced, unlabelled].Perm [unlabelled, unplaced] := List.Perm.swap _ _ _
  refine ⟨?_, rfl, hswap, generate_perm g none hswap⟩
  intro h
  exact absurd (congrArg Detection.label h) (by simp [unplaced, unlabelled])

end Generator

end Wireframe
