import Mathlib.Data.List.Perm.Subperm
import Wireframe.Proofs.Reading.Components

/-!
# Anchored rows are as few as they can be

With an anchored reference an element joins a row if it is near the first element of the row, its
anchor (`isAnchored_of_mem_divideRows`). Elements stand from top to bottom, so all of a row are near
each other. The anchors, on the other hand, are far from each other (`exists_far_divideRows`): no
group of near elements can hold two of them, and a grouping needs at least one group for each.

Main statement: `anchored_rows_are_fewest`.
-/
namespace Wireframe

section Elements

variable {α : Type} (d : α → Detection) (threshold : Binary64)

/-! ## Rows around anchors -/

/-- All elements of a row are near its first one. -/
def IsAnchored : List α → Prop
  | [] => True
  | anchor :: row => ∀ a ∈ row, Near d threshold a anchor

theorem isAnchored_splitRow (reference : Binary64) (l : List α) :
    (∀ a ∈ (splitRow d threshold .anchored reference l).1,
        sharesRow (d a).box.y reference threshold) ∧
      ∀ row ∈ (splitRow d threshold .anchored reference l).2, IsAnchored d threshold row := by
  induction l generalizing reference with
  | nil => simp [splitRow]
  | cons a rest ih =>
    by_cases h : sharesRow (d a).box.y reference threshold
    · obtain ⟨hrow, hrows⟩ := ih reference
      rw [splitRow_cons_of_shares d threshold .anchored rest h]
      exact ⟨List.forall_mem_cons.2 ⟨h, hrow⟩, hrows⟩
    · obtain ⟨hrow, hrows⟩ := ih (d a).box.y
      rw [splitRow_cons_of_not_shares d threshold .anchored rest h, divideRows_cons]
      exact ⟨by simp, List.forall_mem_cons.2 ⟨hrow, hrows⟩⟩

theorem isAnchored_of_mem_divideRows {l row : List α}
    (h : row ∈ divideRows d threshold .anchored l) : IsAnchored d threshold row := by
  cases l with
  | nil => cases h
  | cons a rest =>
    obtain ⟨hrow, hrows⟩ := isAnchored_splitRow d threshold (d a).box.y rest
    rw [divideRows_cons] at h
    rcases List.mem_cons.1 h with rfl | h
    · exact hrow
    · exact hrows row h

variable {d threshold} in
/-- Of two elements of a row the upper one lies between the anchor and the lower one. -/
theorem IsAnchored.pairwise_near {row : List α} (h : IsAnchored d threshold row)
    (hrow : Descends d row) : row.Pairwise (Near d threshold) := by
  cases row with
  | nil => exact .nil
  | cons anchor row =>
    obtain ⟨hanchor, hrest⟩ := List.pairwise_cons.1 hrow
    refine List.pairwise_cons.2 ⟨fun a ha => (h a ha).symm, ?_⟩
    apply hrest.imp_of_mem
    intro a b ha hb hab
    exact ((h b hb).symm.of_between (hanchor a ha) hab).2

theorem pairwise_near_of_mem_divideRows {l row : List α} (hl : Descends d l)
    (h : row ∈ divideRows d threshold .anchored l) : row.Pairwise (Near d threshold) := by
  have hsub := List.sublist_flatten_of_mem h
  rw [divideRows_flatten] at hsub
  exact (isAnchored_of_mem_divideRows d threshold h).pairwise_near (hl.sublist hsub)

/-! ## Anchors are far from each other -/

/-- The rows after the first have anchors that are far from the first one and from each other. -/
theorem exists_far_splitRow {a : α} {l : List α} (h : Descends d (a :: l)) :
    ∃ anchors, anchors.Sublist l ∧
      anchors.length = (splitRow d threshold .anchored (d a).box.y l).2.length ∧
      (a :: anchors).Pairwise fun x y => ¬ Near d threshold x y := by
  induction l generalizing a with
  | nil => exact ⟨[], .slnil, rfl, List.pairwise_singleton _ _⟩
  | cons b rest ih =>
    by_cases hnear : Near d threshold b a
    · have hskip : Descends d (a :: rest) :=
        h.sublist (.cons_cons a (List.sublist_cons_self b rest))
      obtain ⟨anchors, hsub, hlength, hfar⟩ := ih hskip
      rw [splitRow_cons_of_shares d threshold .anchored rest hnear]
      exact ⟨anchors, hsub.cons b, hlength, hfar⟩
    · obtain ⟨anchors, hsub, hlength, hfar⟩ := ih (List.pairwise_cons.1 h).2
      rw [splitRow_cons_of_not_shares d threshold .anchored rest hnear, divideRows_cons]
      refine ⟨b :: anchors, hsub.cons_cons b, ?_, List.pairwise_cons.2 ⟨?_, hfar⟩⟩
      · simp [hlength]
      · -- An anchor near `a` would leave `b`, which stands between, near `a` as well.
        intro c hc hac
        exact hnear (h.near_next ((hsub.cons_cons b).subset hc) hac).symm

theorem exists_far_divideRows {l : List α} (h : Descends d l) :
    ∃ anchors : List α, anchors.Sublist l ∧
      anchors.length = (divideRows d threshold .anchored l).length ∧
      anchors.Pairwise fun x y => ¬ Near d threshold x y := by
  cases l with
  | nil => exact ⟨[], .slnil, rfl, .nil⟩
  | cons a rest =>
    obtain ⟨anchors, hsub, hlength, hfar⟩ := exists_far_splitRow d threshold h
    refine ⟨a :: anchors, hsub.cons_cons a, ?_, hfar⟩
    rw [divideRows_cons]
    simp [hlength]

/-! ## Groupings -/

/-- A division of elements into groups in which any two are near. -/
structure IsGrouping (elements : List α) (groups : List (List α)) : Prop where
  perm : groups.flatten.Perm elements
  near : ∀ group ∈ groups, group.Pairwise (Near d threshold)

/-- A group holds at most one of elements that are far from each other. -/
theorem length_le_of_far {R : α → α → Prop} {groups : List (List α)}
    (hgroups : ∀ group ∈ groups, group.Pairwise R) {far : List α}
    (hsub : far.Sublist groups.flatten) (hfar : far.Pairwise fun a b => ¬ R a b) :
    far.length ≤ groups.length := by
  induction groups generalizing far with
  | nil => simp [List.sublist_nil.1 hsub]
  | cons group groups ih =>
    obtain ⟨hgroup, hrest⟩ := List.forall_mem_cons.1 hgroups
    obtain ⟨first, others, rfl, hfirst, hothers⟩ := List.sublist_append_iff.1 hsub
    obtain ⟨hfarFirst, hfarOthers, -⟩ := List.pairwise_append.1 hfar
    have hone : first.length ≤ 1 := by
      match first, hgroup.sublist hfirst, hfarFirst with
      | [], _, _ => simp
      | [a], _, _ => simp
      | a :: b :: _, hnear, hnot =>
        have hab := List.rel_of_pairwise_cons hnear (List.mem_cons_self (a := b))
        exact absurd hab (List.rel_of_pairwise_cons hnot List.mem_cons_self)
    have hcount := ih hrest hothers hfarOthers
    simp only [List.length_append, List.length_cons]
    omega

theorem isGrouping_anchored (elements : List α) :
    IsGrouping d threshold elements (groupRows d threshold .anchored elements) where
  perm := readingOrder_perm d threshold .anchored elements
  near := by
    intro row hrow
    obtain ⟨given, hgiven, rfl⟩ := List.mem_map.1 hrow
    have hnear := pairwise_near_of_mem_divideRows d threshold (descends_sort d elements) hgiven
    exact (List.mergeSort_perm given _).symm.pairwise hnear Near.symm

/-- **Anchored rows are tight and as few as they can be.** Any two elements of a row are near, and
every grouping of the elements has at least as many groups as there are rows. -/
theorem anchored_rows_are_fewest (elements : List α) :
    IsGrouping d threshold elements (groupRows d threshold .anchored elements) ∧
      ∀ groups, IsGrouping d threshold elements groups →
        (groupRows d threshold .anchored elements).length ≤ groups.length := by
  refine ⟨isGrouping_anchored d threshold elements, ?_⟩
  intro groups hgroups
  obtain ⟨anchors, hsub, hlength, hfar⟩ :=
    exists_far_divideRows d threshold (descends_sort d elements)
  have hperm : (elements.mergeSort (verticalOrder d)).Perm groups.flatten :=
    (List.mergeSort_perm elements _).trans hgroups.perm.symm
  -- The same anchors, in the order in which they stand in the groups.
  obtain ⟨far, hfarPerm, hfarSub⟩ := hsub.subperm.trans hperm.subperm
  have hfar' : far.Pairwise fun a b => ¬ Near d threshold a b :=
    hfarPerm.symm.pairwise hfar fun hnot hnear => hnot hnear.symm
  have hcount := length_le_of_far hgroups.near hfarSub hfar'
  rw [groupRows_eq, List.length_map, ← hlength, ← hfarPerm.length_eq]
  exact hcount

end Elements

end Wireframe
