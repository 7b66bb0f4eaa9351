import Wireframe.Number.Decimal
import Wireframe.Proofs.Reading.Anchors

/-!
# Finer and coarser rows

Rows refine other rows of the same elements if each of them lies within one of the others. Anchored
rows refine the drifting rows of the same threshold, since all of an anchored row is near, and
drifting rows refine those of a greater threshold, since nearness grows with the threshold
(`Near.mono`). Anchored rows of two thresholds need not refine each other; there are no more of them
at the greater one because its anchors, which are far from each other there, are far from each other
at the lesser one as well (`length_anchored_le`).

Main statement: `rows_grow_with_threshold`.
-/
namespace Wireframe

section Partitions

variable {α : Type}

/-- Each of the rows lies within exactly one of the coarser rows. -/
def Refines (fine coarse : List (List α)) : Prop :=
  ∀ row ∈ fine, ∃! wide, wide ∈ coarse ∧ row ⊆ wide

theorem eq_of_mem_rows {rows : List (List α)} (h : rows.flatten.Nodup) {row row' : List α} {a : α}
    (hrow : row ∈ rows) (hrow' : row' ∈ rows) (ha : a ∈ row) (ha' : a ∈ row') : row = row' := by
  have hsymm : Std.Symm (@List.Disjoint α) := ⟨fun _ _ h _ ha hb => h hb ha⟩
  by_contra hne
  exact (List.nodup_flatten.1 h).2.forall hrow hrow' hne ha ha'

theorem nodup_of_nodup_flatten {rows : List (List α)} (h : rows.flatten.Nodup)
    (hne : ∀ row ∈ rows, row ≠ []) : rows.Nodup := by
  refine (List.nodup_flatten.1 h).2.imp_of_mem ?_
  rintro row row' hrow - hdisjoint rfl
  obtain ⟨a, ha⟩ := List.exists_mem_of_ne_nil row (hne row hrow)
  exact hdisjoint ha ha

theorem refines_of_shareRow {fine coarse : List (List α)} (hne : ∀ row ∈ fine, row ≠ [])
    (hnodup : coarse.flatten.Nodup) (h : ∀ a b, ShareRow fine a b → ShareRow coarse a b) :
    Refines fine coarse := by
  intro row hrow
  obtain ⟨a, rest, rfl⟩ := List.exists_cons_of_ne_nil (hne row hrow)
  obtain ⟨wide, hwide, ha, -⟩ := h a a ⟨_, hrow, List.mem_cons_self, List.mem_cons_self⟩
  refine ⟨wide, ⟨hwide, ?_⟩, ?_⟩
  · intro b hb
    obtain ⟨wide', hwide', ha', hb'⟩ := h a b ⟨_, hrow, List.mem_cons_self, hb⟩
    rwa [eq_of_mem_rows hnodup hwide hwide' ha ha']
  · rintro other ⟨hother, hsub⟩
    exact eq_of_mem_rows hnodup hother hwide (hsub List.mem_cons_self) ha

/-- Of rows that refine others there are no fewer: each of the others holds one of them. -/
theorem Refines.length_le {fine coarse : List (List α)} (h : Refines fine coarse)
    (hnodup : coarse.flatten.Nodup) (hne : ∀ wide ∈ coarse, wide ≠ [])
    (hcover : coarse.flatten ⊆ fine.flatten) : coarse.length ≤ fine.length := by
  choose! widen hwiden using fun row hrow => (h row hrow).exists
  have hsub : coarse ⊆ fine.map widen := by
    intro wide hwide
    obtain ⟨a, rest, rfl⟩ := List.exists_cons_of_ne_nil (hne wide hwide)
    obtain ⟨row, hrow, ha⟩ :=
      List.mem_flatten.1 (hcover (List.mem_flatten_of_mem hwide List.mem_cons_self))
    obtain ⟨hwidened, hrowsub⟩ := hwiden row hrow
    refine List.mem_map.2 ⟨row, hrow, ?_⟩
    exact eq_of_mem_rows hnodup hwidened hwide (hrowsub ha) List.mem_cons_self
  calc coarse.length
      ≤ (fine.map widen).length := ((nodup_of_nodup_flatten hnodup hne).subperm hsub).length_le
    _ = fine.length := List.length_map widen

end Partitions

section Elements

variable {α : Type} (d : α → Detection)

/-! ## What is near -/

theorem Near.mono {d : α → Detection} {threshold threshold' : Binary64}
    (h : threshold.le threshold') {a b : α} (hnear : Near d threshold a b) :
    Near d threshold' a b := Binary64.lt_of_lt_of_le hnear h

instance (threshold : Binary64) : Std.Symm (Near d threshold) where
  symm _ _ h := h.symm

section Rows

variable {threshold threshold' : Binary64} {elements : List α} {a b : α}

theorem mem_of_shareRow {strategy : RowStrategy}
    (h : ShareRow (groupRows d threshold strategy elements) a b) : a ∈ elements ∧ b ∈ elements := by
  obtain ⟨row, hrow, ha, hb⟩ := h
  have hmem {c : α} (hc : c ∈ row) : c ∈ elements :=
    (readingOrder_perm d threshold strategy elements).mem_iff.1 (List.mem_flatten_of_mem hrow hc)
  exact ⟨hmem ha, hmem hb⟩

theorem shareRow_drifting_of_anchored
    (h : ShareRow (groupRows d threshold .anchored elements) a b) :
    ShareRow (groupRows d threshold .drifting elements) a b := by
  obtain ⟨ha, hb⟩ := mem_of_shareRow d h
  rw [shareRow_drifting_iff d threshold ha]
  obtain ⟨row, hrow, harow, hbrow⟩ := h
  by_cases hab : a = b
  · rw [hab]
  · have hnear := (isGrouping_anchored d threshold elements).near row hrow
    exact .single ⟨ha, hb, hnear.forall harow hbrow hab⟩

theorem shareRow_drifting_mono (h : threshold.le threshold')
    (hab : ShareRow (groupRows d threshold .drifting elements) a b) :
    ShareRow (groupRows d threshold' .drifting elements) a b := by
  obtain ⟨ha, -⟩ := mem_of_shareRow d hab
  rw [shareRow_drifting_iff d threshold ha] at hab
  rw [shareRow_drifting_iff d threshold' ha]
  have hlinked {b c : α} (hlink : Linked d threshold elements b c) :
      Linked d threshold' elements b c := ⟨hlink.left, hlink.right, hlink.near.mono h⟩
  exact Relation.ReflTransGen.mono (fun b c => hlinked) a b hab

theorem length_anchored_le (h : threshold.le threshold') (elements : List α) :
    (groupRows d threshold' .anchored elements).length ≤
      (groupRows d threshold .anchored elements).length := by
  have hsorted := descends_sort d elements
  obtain ⟨anchors, hsub, hlength, hfar⟩ := exists_far_divideRows d threshold' hsorted
  rw [groupRows_eq, groupRows_eq, List.length_map, List.length_map, ← hlength]
  apply length_le_of_far (R := Near d threshold)
  · intro row hrow
    exact pairwise_near_of_mem_divideRows d threshold hsorted hrow
  · rwa [divideRows_flatten]
  · exact hfar.imp fun hnot hnear => hnot (hnear.mono h)

end Rows

/-! ## Rows of positions -/

/-- The rows of the elements of a list, each element given by its position. -/
def positionRows (elements : List α) (threshold : Binary64) (strategy : RowStrategy) :
    List (List (Fin elements.length)) :=
  groupRows (fun i => d (elements.get i)) threshold strategy (List.finRange elements.length)

variable (elements : List α) (threshold : Binary64) (strategy : RowStrategy)

theorem groupRows_eq_map_positionRows :
    groupRows d threshold strategy elements =
      (positionRows d elements threshold strategy).map (List.map elements.get) := by
  rw [positionRows, ← groupRows_map, List.map_get_finRange]

theorem positionRows_perm :
    (positionRows d elements threshold strategy).flatten.Perm (List.finRange elements.length) :=
  readingOrder_perm _ threshold strategy _

theorem nodup_positionRows : (positionRows d elements threshold strategy).flatten.Nodup :=
  (positionRows_perm d elements threshold strategy).nodup_iff.2 (List.nodup_finRange _)

theorem ne_nil_of_mem_positionRows :
    ∀ row ∈ positionRows d elements threshold strategy, row ≠ [] :=
  (groupRows_isOrderedPartition _ threshold strategy _).nonempty

theorem refines_positionRows {threshold threshold' : Binary64} {strategy strategy' : RowStrategy}
    (h : ∀ i j, ShareRow (positionRows d elements threshold strategy) i j →
      ShareRow (positionRows d elements threshold' strategy') i j) :
    Refines (positionRows d elements threshold strategy)
      (positionRows d elements threshold' strategy') :=
  refines_of_shareRow (ne_nil_of_mem_positionRows d elements threshold strategy)
    (nodup_positionRows d elements threshold' strategy') h

/-- **Rows grow with the threshold and by drifting.** At one threshold each anchored row of the
elements, told apart by their positions, lies within one drifting row, and there are no more
drifting rows. At a greater threshold each drifting row lies within one drifting row, and there are
no more anchored rows. -/
theorem rows_grow_with_threshold :
    (∀ threshold strategy, groupRows d threshold strategy elements =
        (positionRows d elements threshold strategy).map (List.map elements.get) ∧
      (positionRows d elements threshold strategy).flatten.Perm (List.finRange elements.length)) ∧
    (∀ threshold,
      Refines (positionRows d elements threshold .anchored)
        (positionRows d elements threshold .drifting) ∧
      (groupRows d threshold .drifting elements).length ≤
        (groupRows d threshold .anchored elements).length) ∧
    ∀ threshold threshold' : Binary64, threshold.le threshold' →
      Refines (positionRows d elements threshold .drifting)
        (positionRows d elements threshold' .drifting) ∧
      (groupRows d threshold' .anchored elements).length ≤
        (groupRows d threshold .anchored elements).length := by
  refine ⟨?_, ?_, ?_⟩
  · intro threshold strategy
    exact ⟨groupRows_eq_map_positionRows d elements threshold strategy,
      positionRows_perm d elements threshold strategy⟩
  · intro threshold
    have hrefines : Refines (positionRows d elements threshold .anchored)
        (positionRows d elements threshold .drifting) := by
      apply refines_positionRows
      exact fun i j h => shareRow_drifting_of_anchored _ h
    have hcover := ((positionRows_perm d elements threshold .drifting).trans
      (positionRows_perm d elements threshold .anchored).symm).subset
    have hlength := hrefines.length_le (nodup_positionRows d elements threshold .drifting)
      (ne_nil_of_mem_positionRows d elements threshold .drifting) hcover
    refine ⟨hrefines, ?_⟩
    rw [groupRows_eq_map_positionRows, groupRows_eq_map_positionRows, List.length_map,
      List.length_map]
    exact hlength
  · intro threshold threshold' h
    refine ⟨?_, length_anchored_le d h elements⟩
    apply refines_positionRows
    exact fun i j hij => shareRow_drifting_mono _ h hij

end Elements

section Ladder

/-- An element of which only the height matters. -/
def atHeight (y : Binary64) : Detection := ⟨.text, ⟨.zero, y, .one, .one⟩, .one, none⟩

/-- The heights 0, 0.5, 1 and 1.5. -/
def ladder : List Binary64 :=
  [.zero, .ofDecimal false 5 (-1), .one, .ofDecimal false 15 (-1)]

/-- On the ladder, from the threshold 0.6 to 1.1. -/
theorem rows_grow_on_ladder :
    let lesser := Binary64.ofDecimal false 6 (-1)
    let greater := Binary64.ofDecimal false 11 (-1)
    lesser.le greater ∧
      Refines (positionRows atHeight ladder lesser .anchored)
        (positionRows atHeight ladder lesser .drifting) ∧
      Refines (positionRows atHeight ladder lesser .drifting)
        (positionRows atHeight ladder greater .drifting) ∧
      (groupRows atHeight greater .anchored ladder).length ≤
        (groupRows atHeight lesser .anchored ladder).length := by
  intro lesser greater
  have hle : lesser.le greater := by decide +kernel
  obtain ⟨-, hdrift, hgrow⟩ := rows_grow_with_threshold atHeight ladder
  exact ⟨hle, (hdrift lesser).1, (hgrow lesser greater hle).1, (hgrow lesser greater hle).2⟩

/-- Anchored rows need not refine those of a greater threshold: here two rows of two become one of
three and one of one. -/
example :
    (divideRows atHeight (.ofDecimal false 6 (-1)) .anchored ladder).map List.length = [2, 2] ∧
      (divideRows atHeight (.ofDecimal false 11 (-1)) .anchored ladder).map List.length =
        [3, 1] := by
  decide +kernel

end Ladder

end Wireframe
