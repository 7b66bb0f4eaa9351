import Wireframe.Proofs.Steps
import Wireframe.Widget.Render

/-!
# Trees and their rendering

Rendering reads a tree through its leaves only. A tree whose leaves all have source is rendered
by a plain recursion, `Layout.source`, and this is the only way in which rendering succeeds
(`render_eq_ok_iff`).
-/
namespace Wireframe

namespace Layout

variable {α β ε : Type}

/-! ## Trees of rows -/

theorem leavesOfAll_map_leaf (l : List α) : leavesOfAll (l.map leaf) = l := by
  induction l with
  | nil => rfl
  | cons a rest ih => rw [List.map_cons, leavesOfAll, leaves, ih, List.singleton_append]

theorem leaves_ofRow (row : List α) : (ofRow row).leaves = row := by
  match row with
  | [] => rfl
  | [a] => rfl
  | a :: b :: rest => exact leavesOfAll_map_leaf (a :: b :: rest)

theorem leavesOfAll_map_ofRow (rows : List (List α)) :
    leavesOfAll (rows.map ofRow) = rows.flatten := by
  induction rows with
  | nil => rfl
  | cons row rest ih => rw [List.map_cons, leavesOfAll, leaves_ofRow, ih, List.flatten_cons]

theorem ofRows_eq_column {rows : List (List α)} (h : ∀ row ∈ rows, row ≠ []) (gap : Int) :
    ofRows rows gap = column (rows.map ofRow) gap true := by
  have hfilter : (rows.filter fun row => !row.isEmpty) = rows := by
    rw [List.filter_eq_self]
    intro row hrow
    simp [h row hrow]
  rw [ofRows, hfilter]

/-! ## Maps -/

mutual

/-- The tree with other values at its leaves. -/
def map (f : α → β) : Layout α → Layout β
  | leaf a => leaf (f a)
  | row parts => row (mapAll f parts)
  | column parts gap trailingGap => column (mapAll f parts) gap trailingGap

def mapAll (f : α → β) : List (Layout α) → List (Layout β)
  | [] => []
  | part :: rest => map f part :: mapAll f rest

end

theorem mapAll_eq_map (f : α → β) (parts : List (Layout α)) :
    mapAll f parts = parts.map (map f) := by
  induction parts with
  | nil => rfl
  | cons part rest ih => rw [mapAll, ih, List.map_cons]

theorem map_ofRow (f : α → β) (row : List α) : (ofRow row).map f = ofRow (row.map f) := by
  match row with
  | [] => rfl
  | [a] => rfl
  | a :: b :: rest =>
    simp only [ofRow, List.map_cons, map, mapAll_eq_map, List.map_map]
    rfl

theorem map_ofRows (f : α → β) (rows : List (List α)) (gap : Int) :
    (ofRows rows gap).map f = ofRows (rows.map (List.map f)) gap := by
  have hfilter : ((rows.map (List.map f)).filter fun row => !row.isEmpty) =
      (rows.filter fun row => !row.isEmpty).map (List.map f) := by
    rw [List.filter_map]
    congr 2
    funext row
    cases row <;> rfl
  rw [ofRows, ofRows, map, mapAll_eq_map, hfilter, List.map_map, List.map_map]
  congr 1
  refine List.map_congr_left ?_
  intro row _
  exact map_ofRow f row

mutual

/-- Rendering sees the values at the leaves only through their source. -/
theorem render_map (f : α → β) (leafSource : β → Except ε Text) :
    ∀ t : Layout α, (t.map f).render leafSource = t.render fun a => leafSource (f a)
  | leaf a => rfl
  | row parts => by rw [map, render, render, renderAll_mapAll f leafSource parts]
  | column parts gap trailingGap => by
    rw [map, render, render, renderAll_mapAll f leafSource parts]

theorem renderAll_mapAll (f : α → β) (leafSource : β → Except ε Text) :
    ∀ parts : List (Layout α),
      renderAll leafSource (mapAll f parts) = renderAll (fun a => leafSource (f a)) parts
  | [] => rfl
  | part :: rest => by
    rw [mapAll, renderAll, renderAll, render_map f leafSource part,
      renderAll_mapAll f leafSource rest]

end

/-! ## Leaves that have source -/

mutual

/-- The source of a tree from the source of each leaf. -/
def source (leafText : α → Text) : Layout α → Text
  | leaf a => leafText a
  | row parts => rowSource ((sourceAll leafText parts).filter (!·.isEmpty))
  | column parts gap trailingGap =>
    columnSource gap trailingGap ((sourceAll leafText parts).filter (!·.isEmpty))

def sourceAll (leafText : α → Text) : List (Layout α) → List Text
  | [] => []
  | part :: rest => source leafText part :: sourceAll leafText rest

end

theorem sourceAll_eq_map (leafText : α → Text) (parts : List (Layout α)) :
    sourceAll leafText parts = parts.map (source leafText) := by
  induction parts with
  | nil => rfl
  | cons part rest ih => rw [sourceAll, ih, List.map_cons]

section Success

variable {leafSource : α → Except ε Text} {leafText : α → Text}

mutual

theorem render_eq_ok :
    ∀ t : Layout α, (∀ a ∈ t.leaves, leafSource a = .ok (leafText a)) →
      t.render leafSource = .ok (t.source leafText)
  | leaf a, h => h a (List.mem_singleton_self a)
  | row parts, h => by
    rw [render, renderAll_eq_ok parts h]
    rfl
  | column parts gap trailingGap, h => by
    rw [render, renderAll_eq_ok parts h]
    rfl

theorem renderAll_eq_ok :
    ∀ parts : List (Layout α), (∀ a ∈ leavesOfAll parts, leafSource a = .ok (leafText a)) →
      renderAll leafSource parts = .ok (sourceAll leafText parts)
  | [], _ => rfl
  | part :: rest, h => by
    rw [leavesOfAll] at h
    rw [renderAll, render_eq_ok part fun a ha => h a (List.mem_append_left _ ha),
      renderAll_eq_ok rest fun a ha => h a (List.mem_append_right _ ha)]
    rfl

end

end Success

section Failure

variable (leafSource : α → Except ε Text)

mutual

/-- A tree fails as the first of its leaves does that fails, whatever rows and columns they stand
in. -/
theorem fault?_render :
    ∀ t : Layout α, fault? (t.render leafSource) = t.leaves.findSome? fun a => fault? (leafSource a)
  | leaf a => by
    rw [render, leaves, List.findSome?_cons, List.findSome?_nil]
    cases leafSource a <;> rfl
  | row parts => by
    rw [render, leaves, ← fault?_renderAll parts]
    exact fault?_one fun texts : List Text => rowSource (texts.filter (!·.isEmpty))
  | column parts gap trailingGap => by
    rw [render, leaves, ← fault?_renderAll parts]
    exact fault?_one fun texts : List Text =>
      columnSource gap trailingGap (texts.filter (!·.isEmpty))

theorem fault?_renderAll :
    ∀ parts : List (Layout α), fault? (renderAll leafSource parts) =
      (leavesOfAll parts).findSome? fun a => fault? (leafSource a)
  | [] => rfl
  | part :: rest => by
    rw [renderAll, leavesOfAll, List.findSome?_append, ← fault?_render part,
      ← fault?_renderAll rest]
    exact fault?_two fun text texts => text :: texts

end

variable {leafSource}

theorem exists_render_eq_ok_iff {t : Layout α} :
    (∃ text, t.render leafSource = .ok text) ↔
      ∀ a ∈ t.leaves, ∃ leafText, leafSource a = .ok leafText := by
  simp only [← fault?_eq_none_iff, fault?_render, List.findSome?_eq_none_iff]

theorem exists_leaf_of_render_eq_error {t : Layout α} {fault : ε}
    (h : t.render leafSource = .error fault) : ∃ a ∈ t.leaves, leafSource a = .error fault := by
  rw [← fault?_eq_some_iff, fault?_render] at h
  obtain ⟨a, ha, hleaf⟩ := List.exists_of_findSome?_eq_some h
  exact ⟨a, ha, fault?_eq_some_iff.1 hleaf⟩

end Failure

/-- A tree is rendered exactly when all its leaves are. -/
theorem render_eq_ok_iff {leafSource : α → Except ε Text} {t : Layout α} {text : Text} :
    t.render leafSource = .ok text ↔
      (∀ a ∈ t.leaves, ∃ leafText, leafSource a = .ok leafText) ∧
        text = t.source fun a => (leafSource a).toOption.getD [] := by
  have hok (h : ∀ a ∈ t.leaves, ∃ leafText, leafSource a = .ok leafText) :
      t.render leafSource = .ok (t.source fun a => (leafSource a).toOption.getD []) := by
    refine render_eq_ok t ?_
    intro a ha
    obtain ⟨leafText, hleaf⟩ := h a ha
    rw [hleaf]
    rfl
  constructor
  · intro h
    have hleaves := exists_render_eq_ok_iff.1 ⟨text, h⟩
    rw [hok hleaves] at h
    exact ⟨hleaves, (Except.ok.inj h).symm⟩
  · rintro ⟨hleaves, rfl⟩
    exact hok hleaves

end Layout

end Wireframe
