import Mathlib.Data.List.Chain
import Mathlib.Data.List.FinRange
import Mathlib.Data.List.Pairwise
import Mathlib.Logic.Relation
import Wireframe.Proofs.Reading.Nearness

/-!
# Drifting rows are components

With a drifting reference an element joins a row if it is near the element before it. So within a
row neighbours are near (`isChain_of_mem_drifting`), and because elements stand from top to bottom,
nothing is near across a cut (`apart_drifting`). Rows are therefore what chains of near elements
connect, however these chains run through the elements.

Main statement: `drifting_rows_are_components`.
-/
namespace Wireframe

section Elements

variable {α : Type} (d : α → Detection) (threshold : Binary64)

/-! ## Cuts -/

theorem divideRows_drifting_of_near {a b : α} (rest : List α) (h : Near d threshold b a) :
    divideRows d threshold .drifting (a :: b :: rest) =
      let next := splitRow d threshold .drifting (d b).box.y rest
      (a :: b :: next.1) :: next.2 := by
  rw [divideRows_cons, splitRow_cons_of_shares d threshold .drifting rest h]
  rfl

theorem divideRows_of_not_near (strategy : RowStrategy) {a b : α} (rest : List α)
    (h : ¬ Near d threshold b a) :
    divideRows d threshold strategy (a :: b :: rest) =
      [a] :: divideRows d threshold strategy (b :: rest) := by
  rw [divideRows_cons, splitRow_cons_of_not_shares d threshold strategy rest h]

theorem mem_of_mem_divideRows (strategy : RowStrategy) {l row : List α} {a : α}
    (hrow : row ∈ divideRows d threshold strategy l) (ha : a ∈ row) : a ∈ l := by
  rw [← divideRows_flatten d threshold strategy l]
  exact List.mem_flatten_of_mem hrow ha

/-! ## What a scan of sorted elements makes -/

theorem isChain_of_mem_drifting {l row : List α}
    (h : row ∈ divideRows d threshold .drifting l) : row.IsChain (Near d threshold) := by
  induction l generalizing row with
  | nil => cases h
  | cons a rest ih =>
    cases rest with
    | nil =>
      rw [divideRows_cons] at h
      simp only [splitRow, List.mem_singleton] at h
      rw [h]
      exact List.isChain_singleton a
    | cons b rest =>
      rw [divideRows_cons] at ih
      by_cases hnear : Near d threshold b a
      · rw [divideRows_drifting_of_near d threshold rest hnear] at h
        rcases List.mem_cons.1 h with rfl | h
        · exact List.isChain_cons_cons.2 ⟨hnear.symm, ih List.mem_cons_self⟩
        · exact ih (List.mem_cons_of_mem _ h)
      · rw [divideRows_of_not_near d threshold .drifting rest hnear] at h
        rcases List.mem_cons.1 h with rfl | h
        · exact List.isChain_singleton a
        · exact ih h

/-- No element of one row is near one of the other. -/
def Apart (upper lower : List α) : Prop := ∀ a ∈ upper, ∀ b ∈ lower, ¬ Near d threshold a b

instance : Std.Symm (Apart d threshold) where
  symm _ _ h b hb a ha hnear := h a ha b hb hnear.symm

theorem apart_drifting {l : List α} (h : Descends d l) :
    (divideRows d threshold .drifting l).Pairwise (Apart d threshold) := by
  induction l with
  | nil => exact .nil
  | cons a rest ih =>
    cases rest with
    | nil => exact List.pairwise_singleton _ _
    | cons b rest =>
      have hrows := ih (List.pairwise_cons.1 h).2
      by_cases hnear : Near d threshold b a
      · rw [divideRows_cons] at hrows
        rw [divideRows_drifting_of_near d threshold rest hnear]
        obtain ⟨hfirst, hothers⟩ := List.pairwise_cons.1 hrows
        refine List.pairwise_cons.2 ⟨?_, hothers⟩
        intro row hrow c hc e he hce
        rcases List.mem_cons.1 hc with rfl | hc
        · -- What is near `a` further down is near `b`, which stands between.
          have hmem : e ∈ rest := by
            rw [← splitRow_flatten d threshold .drifting (d b).box.y rest]
            exact List.mem_append_right _ (List.mem_flatten_of_mem hrow he)
          have hab := List.rel_of_pairwise_cons h (List.mem_cons_self (a := b))
          have hbe := List.rel_of_pairwise_cons (List.pairwise_cons.1 h).2 hmem
          exact hfirst row hrow b List.mem_cons_self e he (hce.of_between hab hbe).2
        · exact hfirst row hrow c hc e he hce
      · rw [divideRows_of_not_near d threshold .drifting rest hnear]
        refine List.pairwise_cons.2 ⟨?_, hrows⟩
        intro row hrow c hc e he hce
        rw [List.mem_singleton] at hc
        subst hc
        have hmem := mem_of_mem_divideRows d threshold .drifting hrow he
        exact hnear (h.near_next hmem hce).symm

/-! ## Components -/

/-- Two elements are in one row. -/
def ShareRow (rows : List (List α)) (a b : α) : Prop := ∃ row ∈ rows, a ∈ row ∧ b ∈ row

/-- Two of the elements that are near. -/
structure Linked (elements : List α) (a b : α) : Prop where
  left : a ∈ elements
  right : b ∈ elements
  near : Near d threshold a b

instance (elements : List α) : Std.Symm (Linked d threshold elements) where
  symm _ _ h := ⟨h.right, h.left, h.near.symm⟩

/-- A row in which neighbours are near is connected from its first element on. -/
theorem linked_of_isChain {elements row : List α} {a b : α}
    (hchain : (a :: row).IsChain (Near d threshold)) (hsub : ∀ c ∈ a :: row, c ∈ elements)
    (hb : b ∈ a :: row) : Relation.ReflTransGen (Linked d threshold elements) a b := by
  induction row generalizing a with
  | nil =>
    rw [List.mem_singleton.1 hb]
  | cons c row ih =>
    rcases List.mem_cons.1 hb with rfl | hb
    · exact .refl
    · obtain ⟨hnear, hrest⟩ := List.isChain_cons_cons.1 hchain
      have hac : Linked d threshold elements a c :=
        ⟨hsub a List.mem_cons_self, hsub c (List.mem_cons_of_mem a List.mem_cons_self), hnear⟩
      refine .head hac (ih hrest ?_ hb)
      exact fun e he => hsub e (List.mem_cons_of_mem a he)

theorem linked_of_shareRow {elements : List α} {rows : List (List α)}
    (hchain : ∀ row ∈ rows, row.IsChain (Near d threshold))
    (hsub : ∀ a ∈ rows.flatten, a ∈ elements) {a b : α} (h : ShareRow rows a b) :
    Relation.ReflTransGen (Linked d threshold elements) a b := by
  obtain ⟨row, hrow, ha, hb⟩ := h
  obtain ⟨first, rest, rfl⟩ := List.exists_cons_of_ne_nil (List.ne_nil_of_mem ha)
  have hmem : ∀ c ∈ first :: rest, c ∈ elements := fun c hc =>
    hsub c (List.mem_flatten_of_mem hrow hc)
  have hto {c : α} (hc : c ∈ first :: rest) := linked_of_isChain d threshold (hchain _ hrow) hmem hc
  exact (Std.Symm.symm _ _ (hto ha)).trans (hto hb)

theorem shareRow_of_linked {elements : List α} {rows : List (List α)}
    (hapart : rows.Pairwise (Apart d threshold)) (hsub : ∀ a ∈ elements, a ∈ rows.flatten) {a b : α}
    (ha : a ∈ elements) (h : Relation.ReflTransGen (Linked d threshold elements) a b) :
    ShareRow rows a b := by
  induction h with
  | refl =>
    obtain ⟨row, hrow, harow⟩ := List.mem_flatten.1 (hsub a ha)
    exact ⟨row, hrow, harow, harow⟩
  | @tail b c _ hlink ih =>
    obtain ⟨row, hrow, harow, hbrow⟩ := ih
    obtain ⟨row', hrow', hcrow'⟩ := List.mem_flatten.1 (hsub c hlink.right)
    have hsame : row' = row := by
      by_contra hne
      exact hapart.forall hrow hrow' (Ne.symm hne) b hbrow c hcrow' hlink.near
    exact ⟨row, hrow, harow, hsame ▸ hcrow'⟩

/-- Sorting rows from left to right does not change what they hold. -/
theorem shareRow_map_mergeSort {rows : List (List α)} (le : α → α → Bool) {a b : α} :
    ShareRow (rows.map fun row => row.mergeSort le) a b ↔ ShareRow rows a b := by
  simp [ShareRow, List.mem_mergeSort]

theorem shareRow_drifting_iff {elements : List α} {a b : α} (ha : a ∈ elements) :
    ShareRow (groupRows d threshold .drifting elements) a b ↔
      Relation.ReflTransGen (Linked d threshold elements) a b := by
  have hmem (c : α) : c ∈ (divideRows d threshold .drifting
      (elements.mergeSort (verticalOrder d))).flatten ↔ c ∈ elements := by
    rw [divideRows_flatten, List.mem_mergeSort]
  rw [groupRows_eq, shareRow_map_mergeSort]
  constructor
  · apply linked_of_shareRow
    · exact fun row hrow => isChain_of_mem_drifting d threshold hrow
    · exact fun c hc => (hmem c).1 hc
  · apply shareRow_of_linked d threshold (apart_drifting d threshold (descends_sort d elements))
    · exact fun c hc => (hmem c).2 hc
    · exact ha

/-- **Drifting rows are the components of nearness.** Of the elements of a list, told apart by
their positions, two are in one row exactly if they are the same or a chain of elements of the list
leads from one to the other in which each is near the next. -/
theorem drifting_rows_are_components (elements : List α) :
    let rows := groupRows (fun i => d (elements.get i)) threshold .drifting
      (List.finRange elements.length)
    groupRows d threshold .drifting elements = rows.map (List.map elements.get) ∧
      rows.flatten.Perm (List.finRange elements.length) ∧
      ∀ i j, ShareRow rows i j ↔ Relation.ReflTransGen (fun i j =>
        sharesRow (d (elements.get i)).box.y (d (elements.get j)).box.y threshold) i j := by
  intro rows
  refine ⟨?_, readingOrder_perm _ threshold .drifting _, ?_⟩
  · rw [← groupRows_map, List.map_get_finRange]
  · intro i j
    rw [shareRow_drifting_iff _ threshold (List.mem_finRange i)]
    have hlinked (i j : Fin elements.length) :
        Linked (fun i => d (elements.get i)) threshold (List.finRange elements.length) i j ↔
          sharesRow (d (elements.get i)).box.y (d (elements.get j)).box.y threshold :=
      ⟨fun h => h.near, fun h => ⟨List.mem_finRange i, List.mem_finRange j, h⟩⟩
    simp only [← hlinked]

end Elements

end Wireframe
