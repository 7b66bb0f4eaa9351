import Wireframe.Proofs.Layout.Tree
import Wireframe.Proofs.Number.Order
import Wireframe.Proofs.Reading.Order

/-!
# Rows of elements

One scan of the elements in vertical order cuts them into rows. Cutting loses nothing and makes no
empty row (`divideRows_flatten`, `ne_nil_of_mem_divideRows`), whatever the threshold and the
strategy are, so the rows are an ordered partition of the elements (`groupRows_isOrderedPartition`)
and the leaves of their layout are the elements in reading order.
-/
namespace Wireframe

/-- The reference height after an element at height `y` has joined a row. -/
def RowStrategy.nextReference (y reference : Binary64) : RowStrategy → Binary64
  | drifting => y
  | anchored => reference

section Scan

variable {α : Type} (d : α → Detection) (threshold : Binary64) (strategy : RowStrategy)

/-! ## The scan -/

theorem splitRow_cons_of_shares {reference : Binary64} {a : α} (rest : List α)
    (h : sharesRow (d a).box.y reference threshold) :
    splitRow d threshold strategy reference (a :: rest) =
      let next := splitRow d threshold strategy (strategy.nextReference (d a).box.y reference) rest
      (a :: next.1, next.2) := by
  cases strategy <;> simp only [splitRow, h, if_true, RowStrategy.nextReference]

theorem splitRow_cons_of_not_shares {reference : Binary64} {a : α} (rest : List α)
    (h : ¬ sharesRow (d a).box.y reference threshold) :
    splitRow d threshold strategy reference (a :: rest) =
      ([], divideRows d threshold strategy (a :: rest)) := by
  simp only [splitRow, divideRows, h, Bool.false_eq_true, if_false]

theorem divideRows_cons (a : α) (rest : List α) :
    divideRows d threshold strategy (a :: rest) =
      let next := splitRow d threshold strategy (d a).box.y rest
      (a :: next.1) :: next.2 := rfl

theorem splitRow_flatten (reference : Binary64) (l : List α) :
    (splitRow d threshold strategy reference l).1 ++
      (splitRow d threshold strategy reference l).2.flatten = l := by
  induction l generalizing reference with
  | nil => rfl
  | cons a rest ih =>
    by_cases h : sharesRow (d a).box.y reference threshold
    · rw [splitRow_cons_of_shares d threshold strategy rest h, List.cons_append, ih]
    · rw [splitRow_cons_of_not_shares d threshold strategy rest h, divideRows_cons,
        List.nil_append, List.flatten_cons, List.cons_append, ih]

theorem ne_nil_of_mem_splitRow {reference : Binary64} {l row : List α}
    (h : row ∈ (splitRow d threshold strategy reference l).2) : row ≠ [] := by
  induction l generalizing reference with
  | nil => simp [splitRow] at h
  | cons a rest ih =>
    by_cases hs : sharesRow (d a).box.y reference threshold
    · rw [splitRow_cons_of_shares d threshold strategy rest hs] at h
      exact ih h
    · rw [splitRow_cons_of_not_shares d threshold strategy rest hs, divideRows_cons] at h
      rcases List.mem_cons.1 h with rfl | h
      · exact List.cons_ne_nil _ _
      · exact ih h

theorem divideRows_flatten (l : List α) : (divideRows d threshold strategy l).flatten = l := by
  cases l with
  | nil => rfl
  | cons a rest =>
    rw [divideRows_cons, List.flatten_cons, List.cons_append, splitRow_flatten]

theorem ne_nil_of_mem_divideRows {l row : List α} (h : row ∈ divideRows d threshold strategy l) :
    row ≠ [] := by
  cases l with
  | nil => simp [divideRows] at h
  | cons a rest =>
    rcases List.mem_cons.1 h with rfl | h
    · exact List.cons_ne_nil _ _
    · exact ne_nil_of_mem_splitRow d threshold strategy h

/-! ## Rows from left to right -/

theorem groupRows_eq (elements : List α) :
    groupRows d threshold strategy elements =
      (divideRows d threshold strategy (elements.mergeSort (verticalOrder d))).map
        fun row => row.mergeSort (horizontalOrder d) := rfl

theorem flatten_map_mergeSort_perm (le : α → α → Bool) (rows : List (List α)) :
    (rows.map fun row => row.mergeSort le).flatten.Perm rows.flatten := by
  induction rows with
  | nil => exact List.Perm.refl _
  | cons row rest ih => exact (List.mergeSort_perm row le).append ih

theorem readingOrder_perm (elements : List α) :
    (readingOrder d threshold strategy elements).Perm elements := by
  have h := flatten_map_mergeSort_perm (horizontalOrder d)
    (divideRows d threshold strategy (elements.mergeSort (verticalOrder d)))
  rw [divideRows_flatten] at h
  exact h.trans (List.mergeSort_perm _ _)

theorem filter_flatten_sortHorizontally (k : Detection.Key) (rows : List (List α)) :
    (rows.map fun row => row.mergeSort (horizontalOrder d)).flatten.filter
        (fun a => (d a).key = k) =
      rows.flatten.filter fun a => (d a).key = k := by
  induction rows with
  | nil => rfl
  | cons row rest ih =>
    rw [List.map_cons, List.flatten_cons, List.filter_append, filter_sortHorizontally, ih,
      List.flatten_cons, List.filter_append]

/-- Neither sort and no cut between rows changes the order of elements that tie. -/
theorem filter_readingOrder (k : Detection.Key) (elements : List α) :
    (readingOrder d threshold strategy elements).filter (fun a => (d a).key = k) =
      elements.filter fun a => (d a).key = k := by
  rw [readingOrder, groupRows_eq, filter_flatten_sortHorizontally, divideRows_flatten,
    filter_sortVertically]

/-- No element of a row stands below an element of a later row. -/
theorem pairwise_divideRows_sort (elements : List α) :
    (divideRows d threshold strategy (elements.mergeSort (verticalOrder d))).Pairwise
      fun upper lower => ∀ a ∈ upper, ∀ b ∈ lower, (d a).key.y ≤ (d b).key.y := by
  have h := pairwise_sortVertically d elements
  rw [← divideRows_flatten d threshold strategy (elements.mergeSort _),
    List.pairwise_flatten] at h
  refine h.2.imp ?_
  intro upper lower hall a ha b hb
  exact Detection.key_y_le_of_isLE (hall a ha b hb)

end Scan

/-! ## Ordered partitions -/

/-- The height of an element as it is compared: zero if it is not finite. -/
def Detection.height (d : Detection) : Binary64 := d.box.y.orZero

theorem Binary64.orZero_ne_nan (x : Binary64) : x.orZero ≠ nan := by
  cases x <;> simp [orZero, isFinite, zero]

theorem Binary64.le_orZero_iff (x y : Binary64) :
    x.orZero.le y.orZero ↔ x.orZero.units ≤ y.orZero.units := by
  simp [le_iff, orZero_ne_nan]

theorem Binary64.lt_orZero_iff (x y : Binary64) :
    x.orZero.lt y.orZero ↔ x.orZero.units < y.orZero.units := by
  simp [lt_iff, orZero_ne_nan]

/-- What is promised of the rows of elements. -/
structure IsOrderedPartition {α : Type} (d : α → Detection) (elements : List α)
    (rows : List (List α)) : Prop where
  nonempty : ∀ row ∈ rows, row ≠ []
  perm : rows.flatten.Perm elements
  leftToRight : ∀ row ∈ rows, row.Pairwise fun a b => ((d a).compareHorizontal (d b)).isLE
  topToBottom : rows.Pairwise fun upper lower =>
    ∀ a ∈ upper, ∀ b ∈ lower, (d a).height.le (d b).height
  /-- Elements that tie stand in the order in which they were given. -/
  stable : ∀ k : Detection.Key,
    rows.flatten.filter (fun a => (d a).key = k) = elements.filter fun a => (d a).key = k

theorem groupRows_isOrderedPartition {α : Type} (d : α → Detection) (threshold : Binary64)
    (strategy : RowStrategy) (elements : List α) :
    IsOrderedPartition d elements (groupRows d threshold strategy elements) where
  nonempty := by
    intro row hrow
    obtain ⟨given, hgiven, rfl⟩ := List.mem_map.1 hrow
    rw [← List.length_pos_iff, List.length_mergeSort, List.length_pos_iff]
    exact ne_nil_of_mem_divideRows d threshold strategy hgiven
  perm := readingOrder_perm d threshold strategy elements
  leftToRight := by
    intro row hrow
    obtain ⟨given, -, rfl⟩ := List.mem_map.1 hrow
    exact pairwise_sortHorizontally d given
  topToBottom := by
    rw [groupRows_eq, List.pairwise_map]
    refine (pairwise_divideRows_sort d threshold strategy elements).imp ?_
    intro upper lower h a ha b hb
    rw [List.mem_mergeSort] at ha hb
    exact (Binary64.le_orZero_iff _ _).2 (h a ha b hb)
  stable := fun k => filter_readingOrder d threshold strategy k elements

/-- **Rows are a faithful ordered partition.** For any elements, threshold and strategy, the rows
are an ordered partition of the elements, the reading order is their concatenation, and their
layout is a column with one part for each row whose leaves are the elements in reading order. -/
theorem groupRows_faithful {α : Type} (d : α → Detection) (threshold : Binary64)
    (strategy : RowStrategy) (elements : List α) (gap : Int) :
    let rows := groupRows d threshold strategy elements
    IsOrderedPartition d elements rows ∧
      readingOrder d threshold strategy elements = rows.flatten ∧
      Layout.ofRows rows gap = .column (rows.map Layout.ofRow) gap true ∧
      (Layout.ofRows rows gap).leaves = readingOrder d threshold strategy elements := by
  intro rows
  have hpart : IsOrderedPartition d elements rows :=
    groupRows_isOrderedPartition d threshold strategy elements
  have hcolumn := Layout.ofRows_eq_column hpart.nonempty gap
  refine ⟨hpart, rfl, hcolumn, ?_⟩
  rw [hcolumn, Layout.leaves, Layout.leavesOfAll_map_ofRow]
  rfl

end Wireframe
