import Wireframe.Number.Binary64

/-!
# The order of numbers

Numbers are compared by their units; what is not a number is neither below nor above any other.
-/
namespace Wireframe

namespace Binary64

theorem lt_iff {x y : Binary64} : x.lt y = true ↔ x ≠ nan ∧ y ≠ nan ∧ x.units < y.units := by
  simp [lt, isNaN, and_assoc]

theorem le_iff {x y : Binary64} : x.le y = true ↔ x ≠ nan ∧ y ≠ nan ∧ x.units ≤ y.units := by
  simp [le, isNaN, and_assoc]

/-- A number that is not below another one is no less than it. -/
theorem le_of_lt_eq_false {x y : Binary64} (hx : x ≠ nan) (hy : y ≠ nan) (h : x.lt y = false) :
    y.le x = true := by
  rw [← Bool.not_eq_true, lt_iff] at h
  exact le_iff.2 ⟨hy, hx, Int.not_lt.1 fun hlt => h ⟨hx, hy, hlt⟩⟩

/-- From zero to one. -/
def IsFraction (x : Binary64) : Prop := zero.le x ∧ x.le one

instance (x : Binary64) : Decidable x.IsFraction := instDecidableAnd

theorem IsFraction.ne_nan {x : Binary64} (h : x.IsFraction) : x ≠ nan := (le_iff.1 h.1).2.1

/-- To be neither below zero nor above one is less than to be a fraction. -/
theorem outside_eq_false_iff {x : Binary64} :
    (x.lt zero || one.lt x) = false ↔ x = nan ∨ x.IsFraction := by
  rw [Bool.or_eq_false_iff]
  constructor
  · rintro ⟨hzero, hone⟩
    by_cases hx : x = nan
    · exact .inl hx
    · exact .inr ⟨le_of_lt_eq_false hx (by decide) hzero, le_of_lt_eq_false (by decide) hx hone⟩
  · rintro (rfl | ⟨hzero, hone⟩)
    · decide
    · obtain ⟨-, -, hzero⟩ := le_iff.1 hzero
      obtain ⟨-, -, hone⟩ := le_iff.1 hone
      rw [← Bool.not_eq_true, ← Bool.not_eq_true, lt_iff, lt_iff]
      exact ⟨fun h => Int.not_lt.2 hzero h.2.2, fun h => Int.not_lt.2 hone h.2.2⟩

theorem lt_of_lt_of_le {x y z : Binary64} (hxy : x.lt y = true) (hyz : y.le z = true) :
    x.lt z = true := by
  obtain ⟨hx, -, hlt⟩ := lt_iff.1 hxy
  obtain ⟨-, hz, hle⟩ := le_iff.1 hyz
  exact lt_iff.2 ⟨hx, hz, Int.lt_of_lt_of_le hlt hle⟩

end Binary64

end Wireframe
