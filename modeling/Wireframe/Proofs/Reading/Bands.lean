import Wireframe.Proofs.Reading.Components
import Wireframe.Proofs.Reading.Stability

/-!
# Bands of elements

A band lies above another one if all of it stands higher and nothing of the one is near anything of
the other. The scan cuts between the two bands whatever the state is in which it reaches the second
one (`divideRows_append`), so rows of bands can be made one band at a time. Elements of which no two
are near are bands of their own.

Main statement: `rows_of_bands`.
-/
namespace Wireframe

section Elements

variable {α : Type} (d : α → Detection) (threshold : Binary64)

/-- All of the one band stands higher than the other band and far from it. -/
structure IsAbove (upper lower : List α) : Prop where
  higher : ∀ a ∈ upper, ∀ b ∈ lower, (d a).height.lt (d b).height
  apart : Apart d threshold upper lower

theorem apart_cons {a : α} {upper lower : List α} :
    Apart d threshold (a :: upper) lower ↔
      (∀ b ∈ lower, ¬ Near d threshold a b) ∧ Apart d threshold upper lower :=
  List.forall_mem_cons

variable (strategy : RowStrategy)

/-! ## The scan at a border -/

/-- If a band is far from the reference and from all that may become the reference before it is
reached, the scan begins it with a new row. -/
theorem splitRow_append {reference : Binary64} {upper lower : List α}
    (hreference : ∀ b ∈ lower, ¬ sharesRow reference (d b).box.y threshold)
    (hapart : Apart d threshold upper lower) :
    splitRow d threshold strategy reference (upper ++ lower) =
      let next := splitRow d threshold strategy reference upper
      (next.1, next.2 ++ divideRows d threshold strategy lower) := by
  induction upper generalizing reference with
  | nil =>
    cases lower with
    | nil => rfl
    | cons b rest =>
      have hb := hreference b List.mem_cons_self
      rw [sharesRow_comm] at hb
      exact splitRow_cons_of_not_shares d threshold strategy rest hb
  | cons a upper ih =>
    obtain ⟨ha, hrest⟩ := (apart_cons d threshold).1 hapart
    by_cases h : sharesRow (d a).box.y reference threshold
    · have hnext : ∀ b ∈ lower, ¬ sharesRow
          (strategy.nextReference (d a).box.y reference) (d b).box.y threshold := by
        cases strategy with
        | drifting => exact ha
        | anchored => exact hreference
      rw [List.cons_append, splitRow_cons_of_shares d threshold strategy _ h,
        splitRow_cons_of_shares d threshold strategy _ h, ih hnext hrest]
    · rw [List.cons_append, splitRow_cons_of_not_shares d threshold strategy _ h,
        splitRow_cons_of_not_shares d threshold strategy _ h, divideRows_cons, divideRows_cons,
        ih ha hrest]
      rfl

theorem divideRows_append {upper lower : List α} (h : Apart d threshold upper lower) :
    divideRows d threshold strategy (upper ++ lower) =
      divideRows d threshold strategy upper ++ divideRows d threshold strategy lower := by
  cases upper with
  | nil => rfl
  | cons a upper =>
    obtain ⟨ha, hrest⟩ := (apart_cons d threshold).1 h
    rw [List.cons_append, divideRows_cons, divideRows_cons,
      splitRow_append d threshold strategy ha hrest]
    rfl

/-- Elements that are all far from each other have a row each. -/
theorem divideRows_of_pairwise_far {l : List α}
    (h : l.Pairwise fun a b => ¬ Near d threshold a b) :
    divideRows d threshold strategy l = l.map fun a => [a] := by
  induction l with
  | nil => rfl
  | cons a rest ih =>
    obtain ⟨ha, hrest⟩ := List.pairwise_cons.1 h
    have hapart : Apart d threshold [a] rest :=
      (apart_cons d threshold).2 ⟨ha, List.forall_mem_nil _⟩
    rw [← List.singleton_append, divideRows_append d threshold strategy hapart, ih hrest]
    rfl

/-! ## Sorted bands -/

variable {d threshold}

theorem IsAbove.pairwise_sort {upper lower : List α} (h : IsAbove d threshold upper lower) :
    (upper.mergeSort (verticalOrder d) ++ lower.mergeSort (verticalOrder d)).Pairwise
      fun a b => verticalOrder d a b := by
  refine List.pairwise_append.2
    ⟨pairwise_sortVertically d upper, pairwise_sortVertically d lower, ?_⟩
  intro a ha b hb
  have hlt := h.higher a (List.mem_mergeSort.1 ha) b (List.mem_mergeSort.1 hb)
  exact Detection.isLE_of_key_y_lt ((Binary64.lt_orZero_iff _ _).1 hlt)

/-- An interleaving of two bands that keeps the order of each agrees with them in its ties. -/
theorem IsAbove.sameTies {upper lower mixed : List α} (h : IsAbove d threshold upper lower)
    (hperm : mixed.Perm (upper ++ lower)) (hupper : upper.Sublist mixed)
    (hlower : lower.Sublist mixed) : SameTies d mixed (upper ++ lower) := by
  intro k
  have hlength := (hperm.filter fun a => (d a).key = k).length_eq
  rw [List.filter_append] at hlength ⊢
  -- A key tells the height, so only one of the bands has elements of it.
  by_cases hk : ∃ a ∈ upper, (d a).key = k
  · obtain ⟨a, ha, hak⟩ := hk
    have hnone : lower.filter (fun b => (d b).key = k) = [] := by
      rw [List.filter_eq_nil_iff]
      intro b hb hbk
      have hlt := (Binary64.lt_orZero_iff _ _).1 (h.higher a ha b hb)
      have hkey : (d b).key = (d a).key := (of_decide_eq_true hbk).trans hak.symm
      exact absurd (congrArg Detection.Key.y hkey) (Int.ne_of_gt hlt)
    rw [hnone, List.append_nil] at hlength ⊢
    exact ((hupper.filter _).eq_of_length hlength.symm).symm
  · have hnone : upper.filter (fun a => (d a).key = k) = [] := by
      rw [List.filter_eq_nil_iff]
      intro a ha hak
      exact hk ⟨a, ha, of_decide_eq_true hak⟩
    rw [hnone, List.nil_append] at hlength ⊢
    exact ((hlower.filter _).eq_of_length hlength.symm).symm

/-- Putting two bands in vertical order does not mix them. -/
theorem IsAbove.sort_mixed {upper lower mixed : List α} (h : IsAbove d threshold upper lower)
    (hmixed : SameTies d mixed (upper ++ lower)) :
    mixed.mergeSort (verticalOrder d) =
      upper.mergeSort (verticalOrder d) ++ lower.mergeSort (verticalOrder d) := by
  apply sortVertically_eq d h.pairwise_sort
  have hsorted := (sameTies_sortVertically d upper).append (sameTies_sortVertically d lower)
  exact hmixed.trans hsorted.symm

variable (d threshold)

/-- **Bands compose.** The elements of two bands of which one lies above the other, in any order in
which elements that tie stand as in their band, have the rows of the upper band and then those of
the lower one. Elements of which no two are near, their heights distinct or not, have a row each. -/
theorem rows_of_bands :
    (∀ upper lower mixed : List α, IsAbove d threshold upper lower →
      SameTies d mixed (upper ++ lower) →
      groupRows d threshold strategy mixed =
        groupRows d threshold strategy upper ++ groupRows d threshold strategy lower) ∧
    ∀ elements : List α, elements.Pairwise (fun a b => ¬ Near d threshold a b) →
      groupRows d threshold strategy elements =
        (elements.mergeSort (verticalOrder d)).map fun a => [a] := by
  constructor
  · intro upper lower mixed habove hmixed
    have hapart : Apart d threshold (upper.mergeSort (verticalOrder d))
        (lower.mergeSort (verticalOrder d)) := by
      intro a ha b hb
      exact habove.apart a (List.mem_mergeSort.1 ha) b (List.mem_mergeSort.1 hb)
    rw [groupRows_eq, groupRows_eq, groupRows_eq, habove.sort_mixed hmixed,
      divideRows_append d threshold strategy hapart, List.map_append]
  · intro elements hfar
    have hsorted := (List.mergeSort_perm elements (verticalOrder d)).symm.pairwise hfar
      fun hnot hnear => hnot hnear.symm
    rw [groupRows_eq, divideRows_of_pairwise_far d threshold strategy hsorted, List.map_map]
    refine List.map_congr_left ?_
    intro a _
    exact List.mergeSort_singleton a

end Elements

/-- Two elements that tie, around one that stands lower. -/
theorem rows_of_bands_tied :
    let unplaced : Detection := ⟨.text, ⟨.nan, .nan, .zero, .zero⟩, .one, none⟩
    let unlabelled : Detection := ⟨.text, ⟨.zero, .zero, .nan, .zero⟩, .one, some []⟩
    let low : Detection := ⟨.text, ⟨.zero, .one, .zero, .zero⟩, .one, none⟩
    IsAbove id .one [unplaced, unlabelled] [low] ∧
      SameTies id [unplaced, low, unlabelled] ([unplaced, unlabelled] ++ [low]) ∧
      groupRows id .one .anchored [unplaced, low, unlabelled] =
        groupRows id .one .anchored [unplaced, unlabelled] ++ groupRows id .one .anchored [low] ∧
      [low, unplaced].Pairwise (fun a b => ¬ Near id .one a b) ∧
      groupRows id .one .anchored [low, unplaced] =
        ([low, unplaced].mergeSort (verticalOrder id)).map fun a => [a] := by
  intro unplaced unlabelled low
  have habove : IsAbove id .one [unplaced, unlabelled] [low] :=
    ⟨by decide +kernel, by unfold Apart; decide +kernel⟩
  have hmixed : SameTies id [unplaced, low, unlabelled] ([unplaced, unlabelled] ++ [low]) := by
    refine habove.sameTies ?_ (by simp) (by simp)
    exact (List.Perm.swap unlabelled low []).cons unplaced
  have hfar : [low, unplaced].Pairwise (fun a b => ¬ Near id .one a b) := by decide +kernel
  obtain ⟨hbands, hsingle⟩ := rows_of_bands id .one .anchored
  exact ⟨habove, hmixed, hbands _ _ _ habove hmixed, hfar, hsingle _ hfar⟩

end Wireframe
