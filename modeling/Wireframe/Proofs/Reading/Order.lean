import Wireframe.Layout.ReadingOrder
import Wireframe.Proofs.Sorting

/-!
# The order of elements

The vertical and the horizontal comparison are total preorders over the same key: the two put the
coordinates in different places, so elements that tie in one tie in the other. Both sorts keep
elements of one key in their order (`filter_sortVertically`, `filter_sortHorizontally`).
-/
namespace Wireframe

/-! ## Comparisons -/

/-- All that the comparisons look at. -/
structure Detection.Key where
  x : Int
  y : Int
  height : Int
  width : Int
  kind : Kind
  label : Text
  confidence : Int
  deriving DecidableEq

namespace Detection

def key (d : Detection) : Key where
  x := d.box.x.orZero.units
  y := d.box.y.orZero.units
  height := d.box.height.orZero.units
  width := d.box.width.orZero.units
  kind := d.kind
  label := d.label.getD []
  confidence := d.confidence.orZero.units

instance (f : Detection → Binary64) : Std.TransCmp (compareNumber f) :=
  inferInstanceAs (Std.TransCmp (compareOn _))

instance : Std.TransCmp compareTies := inferInstanceAs (Std.TransCmp (compareLex _ _))

instance : Std.TransCmp compareVertical := inferInstanceAs (Std.TransCmp (compareLex _ _))

instance : Std.TransCmp compareHorizontal := inferInstanceAs (Std.TransCmp (compareLex _ _))

theorem compareNumber_eq_eq {f : Detection → Binary64} {a b : Detection} :
    compareNumber f a b = .eq ↔ (f a).orZero.units = (f b).orZero.units := by
  simp [compareNumber, compareOn]

theorem isLE_compareNumber {f : Detection → Binary64} {a b : Detection} :
    (compareNumber f a b).isLE ↔ (f a).orZero.units ≤ (f b).orZero.units := by
  rw [compareNumber, compareOn, Int.isLE_compare]

theorem compareTies_eq_eq {a b : Detection} :
    compareTies a b = .eq ↔
      a.key.height = b.key.height ∧ a.key.width = b.key.width ∧ a.key.kind = b.key.kind ∧
        a.key.label = b.key.label ∧ a.key.confidence = b.key.confidence := by
  have hkind : a.kind.name = b.kind.name ↔ a.kind = b.kind :=
    ⟨Kind.name_injective, fun h => by rw [h]⟩
  simp [compareTies, compareLex_eq_eq, compareNumber_eq_eq, compareOn, hkind, key]

theorem compareVertical_eq_eq {a b : Detection} : compareVertical a b = .eq ↔ a.key = b.key := by
  simp only [compareVertical, compareLex_eq_eq, compareNumber_eq_eq, compareTies_eq_eq]
  simp only [key, Key.mk.injEq]
  exact and_left_comm

theorem compareHorizontal_eq_eq {a b : Detection} :
    compareHorizontal a b = .eq ↔ a.key = b.key := by
  simp only [compareHorizontal, compareLex_eq_eq, compareNumber_eq_eq, compareTies_eq_eq]
  simp only [key, Key.mk.injEq]

/-- From top to bottom means with growing heights. -/
theorem key_y_le_of_isLE {a b : Detection} (h : (compareVertical a b).isLE) :
    a.key.y ≤ b.key.y := by
  simp only [compareVertical, compareLex, Ordering.isLE_then_iff_and] at h
  exact isLE_compareNumber.1 h.1

theorem isLE_of_key_y_lt {a b : Detection} (h : a.key.y < b.key.y) :
    (compareVertical a b).isLE := by
  have hy : compareNumber (·.box.y) a b = .lt := by
    rw [compareNumber, compareOn, Int.compare_eq_lt]
    exact h
  rw [compareVertical, compareLex, hy]
  rfl

end Detection

/-! ## Sorted elements -/

section Elements

variable {α : Type} (d : α → Detection)

/-- Whether `a` is read before `b`, or at the same place, from top to bottom. -/
def verticalOrder (a b : α) : Bool := ((d a).compareVertical (d b)).isLE

/-- Whether `a` is read before `b`, or at the same place, from left to right. -/
def horizontalOrder (a b : α) : Bool := ((d a).compareHorizontal (d b)).isLE

theorem verticalOrder_trans (a b c : α) (hab : verticalOrder d a b) (hbc : verticalOrder d b c) :
    verticalOrder d a c := Std.TransCmp.isLE_trans hab hbc

theorem horizontalOrder_trans (a b c : α) (hab : horizontalOrder d a b)
    (hbc : horizontalOrder d b c) : horizontalOrder d a c := Std.TransCmp.isLE_trans hab hbc

/-- Elements that come before each other tie. -/
theorem key_eq_of_verticalOrder {a b : α} (hab : verticalOrder d a b) (hba : verticalOrder d b a) :
    (d a).key = (d b).key :=
  Detection.compareVertical_eq_eq.1 (Std.OrientedCmp.isLE_antisymm hab hba)

theorem isLE_or_isLE_swap {cmp : Detection → Detection → Ordering} [Std.OrientedCmp cmp]
    (a b : Detection) : ((cmp a b).isLE || (cmp b a).isLE) = true := by
  have hswap : cmp b a = (cmp a b).swap := Std.OrientedCmp.eq_swap
  rw [hswap]
  cases cmp a b <;> rfl

theorem verticalOrder_total (a b : α) : (verticalOrder d a b || verticalOrder d b a) = true :=
  isLE_or_isLE_swap (d a) (d b)

theorem horizontalOrder_total (a b : α) :
    (horizontalOrder d a b || horizontalOrder d b a) = true := isLE_or_isLE_swap (d a) (d b)

theorem pairwise_sortVertically (l : List α) :
    (l.mergeSort (verticalOrder d)).Pairwise fun a b => verticalOrder d a b :=
  List.pairwise_mergeSort (verticalOrder_trans d) (verticalOrder_total d) l

theorem pairwise_sortHorizontally (l : List α) :
    (l.mergeSort (horizontalOrder d)).Pairwise fun a b => horizontalOrder d a b :=
  List.pairwise_mergeSort (horizontalOrder_trans d) (horizontalOrder_total d) l

/-- Elements of one key keep their order. -/
theorem filter_sortVertically (k : Detection.Key) (l : List α) :
    (l.mergeSort (verticalOrder d)).filter (fun a => (d a).key = k) =
      l.filter fun a => (d a).key = k := by
  refine filter_mergeSort (verticalOrder_trans d) (verticalOrder_total d) _ ?_ l
  intro a b ha hb
  have hab : (d a).key = (d b).key := by simp_all
  simp [verticalOrder, Detection.compareVertical_eq_eq.2 hab]

theorem filter_sortHorizontally (k : Detection.Key) (l : List α) :
    (l.mergeSort (horizontalOrder d)).filter (fun a => (d a).key = k) =
      l.filter fun a => (d a).key = k := by
  refine filter_mergeSort (horizontalOrder_trans d) (horizontalOrder_total d) _ ?_ l
  intro a b ha hb
  have hab : (d a).key = (d b).key := by simp_all
  simp [horizontalOrder, Detection.compareHorizontal_eq_eq.2 hab]

end Elements

end Wireframe
