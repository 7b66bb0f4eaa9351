import Wireframe.Number.Decimal
import Wireframe.Proofs.Number.Order
import Wireframe.Proofs.Number.Rounding
import Wireframe.Widget.Size

/-!
# Sizes are bounded and grow with lengths

A length in pixels is rounded from a product and cut off at the limit (`pixels_eq`), and each of
these steps keeps the order. Only a product that is infinite does not: it counts as no length at
all, and so a longer length may have fewer pixels than a shorter one (`not_pixels_mono_vast`).

Main statement: `pixels_bounded_mono`.
-/
namespace Wireframe

namespace Canvas

open Binary64

/-! ## Lengths -/

theorem pixels_eq (value reference : Binary64) :
    pixels value reference =
      if (value * reference).isFinite then
        min (roundQuotient (value * reference).units.toNat unitsPerOne) pixelLimit
      else 0 := by
  unfold pixels
  match value * reference with
  | .nan => rfl
  | .infinite _ => rfl
  | .finite false magnitude => simp [isFinite, units]
  | .finite true magnitude => simp [isFinite, units, roundQuotient_zero_left]

theorem pixels_le (value reference : Binary64) : pixels value reference ≤ 2147483647 := by
  rw [pixels_eq]
  split
  · exact Nat.min_le_right _ _
  · exact Nat.zero_le _

/-- What is not finite on the canvas counts as no length. -/
theorem pixels_of_not_isFinite {value reference : Binary64}
    (h : (value * reference).isFinite = false) : pixels value reference = 0 := by
  rw [pixels_eq, h]
  rfl

theorem pixels_le_pixels {value value' reference : Binary64}
    (hfinite : (value' * reference).isFinite)
    (h : (value * reference).units ≤ (value' * reference).units) :
    pixels value reference ≤ pixels value' reference := by
  rw [pixels_eq value', if_pos hfinite, pixels_eq]
  split
  · have hnat := Int.toNat_le_toNat h
    have hround := roundQuotient_mono unitsPerOne hnat
    omega
  · exact Nat.zero_le _

/-- A longer length has no fewer pixels, if it is finite on the canvas or the other one has none. -/
theorem pixels_le_pixels_iff {value value' reference : Binary64} (hvalue : value.isFinite)
    (hvalue' : value'.isFinite) (hreference : reference.isFinite)
    (hpos : Binary64.zero.lt reference) (h : value.le value') :
    pixels value reference ≤ pixels value' reference ↔
      (value' * reference).isFinite ∨ pixels value reference = 0 := by
  obtain ⟨-, -, hpos⟩ := lt_iff.1 hpos
  obtain ⟨-, -, hle⟩ := le_iff.1 h
  constructor
  · intro hpixels
    cases hfinite : (value' * reference).isFinite with
    | true => exact .inl rfl
    | false =>
      rw [pixels_of_not_isFinite hfinite] at hpixels
      exact .inr (Nat.le_zero.1 hpixels)
  · rintro (hfinite | hnone)
    · exact pixels_le_pixels hfinite (units_mul_mono hvalue hvalue' hreference hpos hle)
    · rw [hnone]
      exact Nat.zero_le _

/-! ## Boxes -/

/-- Both boxes have finite sides, and the first one has none that is longer. -/
structure NoLarger (box box' : Rect) : Prop where
  finite : box.width.isFinite ∧ box.height.isFinite
  finite' : box'.width.isFinite ∧ box'.height.isFinite
  width : box.width.le box'.width
  height : box.height.le box'.height

/-- A larger box is not shown smaller, if its sides are finite on the canvas. -/
theorem extent_mono {width height : Binary64} (hwidth : width.isFinite ∧ Binary64.zero.lt width)
    (hheight : height.isFinite ∧ Binary64.zero.lt height) {box box' : Rect} (h : NoLarger box box')
    (hfinite : (box'.width * width).isFinite ∧ (box'.height * height).isFinite) :
    ∃ size size', extent (ofSides width height) box = .ok size ∧
      extent (ofSides width height) box' = .ok size' ∧ size.1 ≤ size'.1 ∧ size.2 ≤ size'.2 := by
  refine ⟨_, _, rfl, rfl, ?_, ?_⟩
  · exact (pixels_le_pixels_iff h.finite.1 h.finite'.1 hwidth.1 hwidth.2 h.width).2
      (.inl hfinite.1)
  · exact (pixels_le_pixels_iff h.finite.2 h.finite'.2 hheight.1 hheight.2 h.height).2
      (.inl hfinite.2)

/-- **Lengths in pixels are bounded and grow with the lengths.** On a side of positive length, of
two finite lengths the greater has no fewer pixels just if it is finite on the canvas, or the other
one has none either; a length that is not finite there has none. So a larger box that is finite on
the canvas is not shown smaller. -/
theorem pixels_bounded_mono :
    (∀ value reference, pixels value reference ≤ 2147483647) ∧
    (∀ value reference, (value * reference).isFinite = false → pixels value reference = 0) ∧
    (∀ reference : Binary64, reference.isFinite → Binary64.zero.lt reference →
      ∀ value value' : Binary64, value.isFinite → value'.isFinite → value.le value' →
        (pixels value reference ≤ pixels value' reference ↔
          (value' * reference).isFinite ∨ pixels value reference = 0)) ∧
    (∀ width height : Binary64, width.isFinite ∧ Binary64.zero.lt width →
      height.isFinite ∧ Binary64.zero.lt height → ∀ box box', NoLarger box box' →
        (box'.width * width).isFinite ∧ (box'.height * height).isFinite →
          ∃ size size', extent (ofSides width height) box = .ok size ∧
            extent (ofSides width height) box' = .ok size' ∧
              size.1 ≤ size'.1 ∧ size.2 ≤ size'.2) := by
  refine ⟨pixels_le, fun _ _ => pixels_of_not_isFinite, ?_, ?_⟩
  · intro reference hreference hpos value value' hvalue hvalue' hle
    exact pixels_le_pixels_iff hvalue hvalue' hreference hpos hle
  · intro width height hwidth hheight box box' hbox hfinite
    exact extent_mono hwidth hheight hbox hfinite

section Vast

/-- The width of the standard canvas. -/
def standardWidth : Binary64 := ofDecimal false 375 0

/-- Far beyond the limit of pixels, but finite on the canvas. -/
def longLength : Binary64 := ofDecimal false 1 300

/-- A number that has no finite product with the width. -/
def vastLength : Binary64 := ofDecimal false 1 308

def unitBox : Rect := ⟨.zero, .zero, .one, .one⟩

def longBox : Rect := ⟨.zero, .zero, longLength, longLength⟩

theorem pixels_bounded_mono_long :
    (standardWidth.isFinite ∧ Binary64.zero.lt standardWidth) ∧
      (longLength * standardWidth).isFinite ∧
      pixels .one standardWidth ≤ pixels longLength standardWidth ∧
      NoLarger unitBox longBox ∧
      ∃ size size', extent (ofSides standardWidth standardWidth) unitBox = .ok size ∧
        extent (ofSides standardWidth standardWidth) longBox = .ok size' ∧
          size.1 ≤ size'.1 ∧ size.2 ≤ size'.2 := by
  obtain ⟨-, -, hlength, hbox⟩ := pixels_bounded_mono
  have hside : standardWidth.isFinite ∧ Binary64.zero.lt standardWidth := by decide +kernel
  have hone : Binary64.one.isFinite := by decide
  have hlong : longLength.isFinite := by decide +kernel
  have hle : Binary64.one.le longLength := by decide +kernel
  have hfinite : (longLength * standardWidth).isFinite := by decide +kernel
  have hlarger : NoLarger unitBox longBox :=
    ⟨by decide +kernel, by decide +kernel, by decide +kernel, by decide +kernel⟩
  exact ⟨hside, hfinite, (hlength _ hside.1 hside.2 _ _ hone hlong hle).2 (.inl hfinite), hlarger,
    hbox _ _ hside hside _ _ hlarger (by decide +kernel)⟩

/-- The vast length is longer, and has no pixels, where the long one has as many as can be. -/
theorem not_pixels_mono_vast :
    standardWidth.isFinite ∧ Binary64.zero.lt standardWidth ∧ longLength.isFinite ∧
      vastLength.isFinite ∧ longLength.le vastLength ∧
      pixels longLength standardWidth = 2147483647 ∧ pixels vastLength standardWidth = 0 ∧
      ¬pixels longLength standardWidth ≤ pixels vastLength standardWidth := by
  decide +kernel

end Vast

end Canvas

end Wireframe
