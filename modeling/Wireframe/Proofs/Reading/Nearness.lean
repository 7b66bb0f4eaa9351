import Wireframe.Proofs.Number.Rounding
import Wireframe.Proofs.Reading.NormalForm

/-!
# Nearness

Two elements are near if their heights are close enough to share a row. Nearness is symmetric, and
because rounding is monotone it is kept when the distance shrinks: of elements from top to bottom,
what lies between two near ones is near to both (`Near.of_between`). It need not be transitive, and
below a threshold that is not positive an element is not even near to itself.
-/
namespace Wireframe

/-! ## Distances -/

/-- Only the distance of two heights decides whether they share a row. -/
theorem sharesRow_eq (y reference threshold : Binary64) :
    sharesRow y reference threshold =
      (Binary64.ofQuotient false (y.orZero.units - reference.orZero.units).natAbs 1).lt
        threshold := by
  rw [sharesRow, Binary64.abs_sub_orZero]

theorem sharesRow_comm (y reference threshold : Binary64) :
    sharesRow y reference threshold = sharesRow reference y threshold := by
  rw [sharesRow_eq, sharesRow_eq, ← Int.neg_sub, Int.natAbs_neg]

/-- Heights share a row if some that are no closer to each other do. -/
theorem sharesRow_of_distance_le {y reference y' reference' threshold : Binary64}
    (hle : (y.orZero.units - reference.orZero.units).natAbs ≤
      (y'.orZero.units - reference'.orZero.units).natAbs)
    (h : sharesRow y' reference' threshold) : sharesRow y reference threshold := by
  rw [sharesRow_eq] at h ⊢
  exact Binary64.lt_of_ofQuotient_lt hle h

section Elements

variable {α : Type} (d : α → Detection) (threshold : Binary64)

def Near (a b : α) : Prop := sharesRow (d a).box.y (d b).box.y threshold = true

instance (a b : α) : Decidable (Near d threshold a b) := inferInstanceAs (Decidable (_ = _))

/-- Elements stand from top to bottom. -/
def Descends (l : List α) : Prop := l.Pairwise fun a b => (d a).key.y ≤ (d b).key.y

variable {d threshold}

theorem Near.symm {a b : α} (h : Near d threshold a b) : Near d threshold b a := by
  unfold Near at *
  rw [sharesRow_comm]
  exact h

theorem Near.of_between {a b c : α} (hab : (d a).key.y ≤ (d b).key.y)
    (hbc : (d b).key.y ≤ (d c).key.y) (h : Near d threshold a c) :
    Near d threshold a b ∧ Near d threshold b c := by
  simp only [Detection.key] at hab hbc
  constructor
  · apply sharesRow_of_distance_le _ h
    omega
  · apply sharesRow_of_distance_le _ h
    omega

theorem Descends.sublist {l l' : List α} (h : Descends d l') (hsub : l.Sublist l') :
    Descends d l := List.Pairwise.sublist hsub h

/-- What stands right below an element is as near to it as anything further down. -/
theorem Descends.near_next {a b c : α} {rest : List α} (h : Descends d (a :: b :: rest))
    (hc : c ∈ b :: rest) (hnear : Near d threshold a c) : Near d threshold a b := by
  obtain ⟨ha, hrest⟩ := List.pairwise_cons.1 h
  rcases List.mem_cons.1 hc with rfl | hc
  · exact hnear
  · exact (hnear.of_between (ha b List.mem_cons_self) (List.rel_of_pairwise_cons hrest hc)).1

variable (d)

theorem descends_sort (elements : List α) :
    Descends d (elements.mergeSort (verticalOrder d)) := by
  refine (pairwise_sortVertically d elements).imp ?_
  intro a b h
  exact Detection.key_y_le_of_isLE h

end Elements

end Wireframe
