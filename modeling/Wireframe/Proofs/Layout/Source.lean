import Wireframe.Proofs.Dart.Blocks
import Wireframe.Proofs.Layout.Tree

/-!
# Source of layout trees

Rows and columns put the source of their parts between brackets of their own. The skeleton of a
tree is what the tree makes of the skeletons of its leaves (`skeleton_source`), and a tree with
well-formed leaves is well-formed (`wellFormed_source`). The literals of a part are indented with
it, by three levels in a row and by two in a column.
-/
namespace Wireframe

namespace Layout

open Dart

/-! ## Parts of rows -/

def expandedOpening : Text := "Expanded(\n"

def childOpening : Text := "child: "

def expandedClosing : Text := ",\n)"

theorem expandedPart_eq (code : Text) :
    expandedPart code =
      expandedOpening ++ (indent 1 (childOpening ++ (code ++ [])) ++ expandedClosing) := by
  simp [expandedPart, Text.concat, expandedOpening, childOpening, expandedClosing]

theorem isPlain_expandedOpening : isPlain expandedOpening = true := isPlain_of_chars (by decide)

theorem isPlain_childOpening : isPlain childOpening = true := isPlain_of_chars (by decide)

theorem isPlain_expandedClosing : isPlain expandedClosing = true := isPlain_of_chars (by decide)

section Expanded

variable {code : Text} (h : Sealed code)

include h

theorem sealed_child : Sealed (childOpening ++ (code ++ [])) :=
  sealed_between isPlain_childOpening rfl h

theorem sealed_expandedPart : Sealed (expandedPart code) := by
  rw [expandedPart_eq]
  exact sealed_between isPlain_expandedOpening isPlain_expandedClosing ((sealed_child h).indent 1)

theorem skeleton_expandedPart : skeleton (expandedPart code) = expandedPart (skeleton code) := by
  rw [expandedPart_eq, expandedPart_eq,
    skeleton_between isPlain_expandedOpening isPlain_expandedClosing ((sealed_child h).indent 1),
    skeleton_indent, skeleton_between isPlain_childOpening rfl h]

theorem literals_expandedPart :
    literals (expandedPart code) = (literals code).map (indentBody 1) := by
  rw [expandedPart_eq,
    literals_between isPlain_expandedOpening isPlain_expandedClosing ((sealed_child h).indent 1),
    (sealed_child h).literals_indent, literals_between isPlain_childOpening rfl h]

end Expanded

theorem wellBracketed_expandedPart {code : Text} (h : WellBracketed code) :
    WellBracketed (expandedPart code) := by
  have hchild : WellBracketed (childOpening ++ (code ++ [])) :=
    .between [] (nest_of_chars (by decide)) h rfl
  rw [expandedPart_eq]
  refine .between [0x29] (nest_of_chars (by decide)) ?_ (nest_of_chars (by decide))
  exact (nest_indent [] 1 _).trans hchild

/-! ## Rows -/

def rowOpening : Text :=
  "Row(\n  mainAxisAlignment: MainAxisAlignment.spaceBetween,\n  children: [\n"

def listClosing : Text := "\n  ],\n)"

theorem nest_listClosing : nest [0x5D, 0x29] listClosing = some [] :=
  nest_of_chars (by decide)

theorem rowSource_eq {parts : List Text} (h : parts ≠ []) :
    rowSource parts = rowOpening ++ (listEntries 2 (parts.map expandedPart) ++ listClosing) := by
  rw [rowSource, List.isEmpty_eq_false_iff.2 h, if_neg Bool.false_ne_true]
  simp [Text.concat, rowOpening, listClosing]

theorem isPlain_rowOpening : isPlain rowOpening = true := isPlain_of_chars (by decide)

theorem isPlain_listClosing : isPlain listClosing = true := isPlain_of_chars (by decide)

section Rows

variable {parts : List Text} (h : ∀ part ∈ parts, Sealed part)

include h

theorem sealed_expandedParts : ∀ part ∈ parts.map expandedPart, Sealed part := by
  intro part hpart
  obtain ⟨code, hcode, rfl⟩ := List.mem_map.1 hpart
  exact sealed_expandedPart (h code hcode)

theorem sealed_rowSource : Sealed (rowSource parts) := by
  by_cases hparts : parts = []
  · rw [hparts]
    exact .nil
  · rw [rowSource_eq hparts]
    exact sealed_between isPlain_rowOpening isPlain_listClosing
      (sealed_listEntries 2 (sealed_expandedParts h))

theorem skeleton_rowSource : skeleton (rowSource parts) = rowSource (parts.map skeleton) := by
  by_cases hparts : parts = []
  · rw [hparts]
    rfl
  · rw [rowSource_eq hparts, rowSource_eq (mt List.map_eq_nil_iff.1 hparts),
      skeleton_between isPlain_rowOpening isPlain_listClosing
        (sealed_listEntries 2 (sealed_expandedParts h)),
      skeleton_listEntries 2 (sealed_expandedParts h), List.map_map, List.map_map]
    congr 3
    exact List.map_congr_left fun part hpart => skeleton_expandedPart (h part hpart)

theorem literals_rowSource :
    literals (rowSource parts) = (parts.flatMap literals).map (indentBody 3) := by
  by_cases hparts : parts = []
  · rw [hparts]
    rfl
  · rw [rowSource_eq hparts,
      literals_between isPlain_rowOpening isPlain_listClosing
        (sealed_listEntries 2 (sealed_expandedParts h)),
      literals_listEntries 2 (sealed_expandedParts h), List.flatMap_map, List.map_flatMap,
      List.map_flatMap]
    refine List.flatMap_congr fun part hpart => ?_
    rw [literals_expandedPart (h part hpart), List.map_map]
    exact List.map_congr_left fun body _ => indentBody_indentBody 2 1 body

end Rows

theorem wellBracketed_rowSource {parts : List Text} (h : ∀ part ∈ parts, WellBracketed part) :
    WellBracketed (rowSource parts) := by
  by_cases hparts : parts = []
  · rw [hparts]
    exact .nil
  · rw [rowSource_eq hparts]
    refine .between [0x5D, 0x29] (nest_of_chars (by decide)) ?_ nest_listClosing
    refine .listEntries 2 fun part hpart => ?_
    obtain ⟨code, hcode, rfl⟩ := List.mem_map.1 hpart
    exact wellBracketed_expandedPart (h code hcode)

/-! ## Columns -/

def spacerOpening : Text := "const SizedBox(height: "

def spacerClosing : Text := ")"

theorem spacer_eq (gap : Int) :
    spacer gap = spacerOpening ++ (Text.ofInt gap ++ spacerClosing) := by
  simp [spacer, Text.concat, spacerOpening, spacerClosing]

theorem isPlain_spacer (gap : Int) : isPlain (spacer gap) = true := by
  have hopening : isPlain spacerOpening = true := isPlain_of_chars (by decide)
  have hclosing : isPlain spacerClosing = true := isPlain_of_chars (by decide)
  rw [spacer_eq, isPlain_append, isPlain_append, hopening, isPlain_ofInt, hclosing]
  rfl

theorem wellBracketed_spacer (gap : Int) : WellBracketed (spacer gap) := by
  rw [spacer_eq]
  exact .between [0x29] (nest_of_chars (by decide)) (wellBracketed_ofInt gap)
    (nest_of_chars (by decide))

section Spaced

variable (gapText : Text) (trailingGap : Bool)

theorem mem_spaced {parts : List Text} {text : Text}
    (h : text ∈ spaced gapText trailingGap parts) : text = gapText ∨ text ∈ parts := by
  induction parts with
  | nil => cases h
  | cons part rest ih =>
    cases rest with
    | nil =>
      rw [spaced] at h
      split at h
      · rcases List.mem_cons.1 h with rfl | h
        · exact .inr List.mem_cons_self
        · exact .inl (List.mem_singleton.1 h)
      · exact .inr h
    | cons next rest =>
      rw [spaced] at h
      · rcases List.mem_cons.1 h with rfl | h
        · exact .inr List.mem_cons_self
        · rcases List.mem_cons.1 h with rfl | h
          · exact .inl rfl
          · exact (ih h).imp_right (List.mem_cons_of_mem part)
      · exact List.cons_ne_nil next rest

theorem map_spaced (f : Text → Text) (parts : List Text) :
    (spaced gapText trailingGap parts).map f = spaced (f gapText) trailingGap (parts.map f) := by
  induction parts with
  | nil => rfl
  | cons part rest ih =>
    cases rest with
    | nil => cases trailingGap <;> rfl
    | cons next rest =>
      have hrest : spaced gapText trailingGap (part :: next :: rest) =
          part :: gapText :: spaced gapText trailingGap (next :: rest) := rfl
      rw [hrest, List.map_cons, List.map_cons, ih]
      rfl

/-- What a spacer does not have comes from the parts alone. -/
theorem flatMap_spaced {β : Type} {f : Text → List β} (h : f gapText = []) (parts : List Text) :
    (spaced gapText trailingGap parts).flatMap f = parts.flatMap f := by
  induction parts with
  | nil => rfl
  | cons part rest ih =>
    cases rest with
    | nil => cases trailingGap <;> simp [spaced, h]
    | cons next rest =>
      have hrest : spaced gapText trailingGap (part :: next :: rest) =
          part :: gapText :: spaced gapText trailingGap (next :: rest) := rfl
      rw [hrest, List.flatMap_cons, List.flatMap_cons, h, List.nil_append, ih]
      rfl

end Spaced

def columnOpening : Text :=
  "Column(\n  crossAxisAlignment: CrossAxisAlignment.stretch,\n  children: ["

def columnClosing : Text := "],\n)"

theorem columnSource_nil (gap : Int) (trailingGap : Bool) :
    columnSource gap trailingGap [] = columnOpening ++ columnClosing := by
  simp [columnSource, Text.concat, columnOpening, columnClosing]

theorem columnSource_eq (gap : Int) (trailingGap : Bool) {parts : List Text} (h : parts ≠ []) :
    columnSource gap trailingGap parts = (columnOpening ++ "\n") ++
      (listEntries 2 (spaced (spacer gap) trailingGap parts) ++ listClosing) := by
  rw [columnSource, List.isEmpty_eq_false_iff.2 h, if_neg Bool.false_ne_true]
  simp [Text.concat, columnOpening, listClosing]

theorem isPlain_columnOpening : isPlain columnOpening = true := isPlain_of_chars (by decide)

theorem isPlain_columnLine : isPlain (columnOpening ++ "\n") = true := by
  rw [isPlain_append, isPlain_columnOpening, isPlain_lineFeed]
  rfl

theorem isPlain_emptyColumn : isPlain (columnOpening ++ columnClosing) = true := by
  have hclosing : isPlain columnClosing = true := isPlain_of_chars (by decide)
  rw [isPlain_append, isPlain_columnOpening, hclosing]
  rfl

theorem nest_columnOpening : nest [] columnOpening = some [0x5D, 0x29] :=
  nest_of_chars (by decide)

section Columns

variable (gap : Int) (trailingGap : Bool) {parts : List Text} (h : ∀ part ∈ parts, Sealed part)

include h

theorem sealed_spaced : ∀ part ∈ spaced (spacer gap) trailingGap parts, Sealed part := by
  intro part hpart
  rcases mem_spaced _ _ hpart with rfl | hpart
  · exact sealed_of_isPlain (isPlain_spacer gap)
  · exact h part hpart

theorem sealed_columnSource : Sealed (columnSource gap trailingGap parts) := by
  by_cases hparts : parts = []
  · rw [hparts, columnSource_nil]
    exact sealed_of_isPlain isPlain_emptyColumn
  · rw [columnSource_eq gap trailingGap hparts]
    exact sealed_between isPlain_columnLine isPlain_listClosing
      (sealed_listEntries 2 (sealed_spaced gap trailingGap h))

theorem skeleton_columnSource :
    skeleton (columnSource gap trailingGap parts) =
      columnSource gap trailingGap (parts.map skeleton) := by
  by_cases hparts : parts = []
  · rw [hparts, List.map_nil, columnSource_nil]
    exact skeleton_of_isPlain isPlain_emptyColumn
  · rw [columnSource_eq gap trailingGap hparts,
      columnSource_eq gap trailingGap (mt List.map_eq_nil_iff.1 hparts),
      skeleton_between isPlain_columnLine isPlain_listClosing
        (sealed_listEntries 2 (sealed_spaced gap trailingGap h)),
      skeleton_listEntries 2 (sealed_spaced gap trailingGap h), map_spaced,
      skeleton_of_isPlain (isPlain_spacer gap)]

theorem literals_columnSource :
    literals (columnSource gap trailingGap parts) =
      (parts.flatMap literals).map (indentBody 2) := by
  by_cases hparts : parts = []
  · rw [hparts, columnSource_nil]
    exact literals_of_isPlain isPlain_emptyColumn
  · rw [columnSource_eq gap trailingGap hparts,
      literals_between isPlain_columnLine isPlain_listClosing
        (sealed_listEntries 2 (sealed_spaced gap trailingGap h)),
      literals_listEntries 2 (sealed_spaced gap trailingGap h),
      flatMap_spaced _ _ (literals_of_isPlain (isPlain_spacer gap))]

end Columns

theorem wellBracketed_columnSource (gap : Int) (trailingGap : Bool) {parts : List Text}
    (h : ∀ part ∈ parts, WellBracketed part) :
    WellBracketed (columnSource gap trailingGap parts) := by
  by_cases hparts : parts = []
  · rw [hparts, columnSource_nil, WellBracketed, nest_append, nest_columnOpening]
    exact nest_of_chars (by decide)
  · have hopening : nest [] (columnOpening ++ "\n") = some [0x5D, 0x29] := by
      rw [nest_append, nest_columnOpening]
      exact nest_of_chars (by decide)
    rw [columnSource_eq gap trailingGap hparts]
    refine .between [0x5D, 0x29] hopening ?_ nest_listClosing
    refine .listEntries 2 fun part hpart => ?_
    rcases mem_spaced _ _ hpart with rfl | hpart
    · exact wellBracketed_spacer gap
    · exact h part hpart

/-! ## Trees -/

variable {α : Type} {leafText : α → Text}

mutual

/-- What leaves have, and what rows and columns keep, trees have. -/
theorem source_induction {P : Text → Prop} (hleaf : ∀ a, P (leafText a))
    (hrow : ∀ parts, (∀ part ∈ parts, P part) → P (rowSource parts))
    (hcolumn : ∀ gap trailingGap parts, (∀ part ∈ parts, P part) →
      P (columnSource gap trailingGap parts)) :
    ∀ t : Layout α, P (t.source leafText)
  | leaf a => hleaf a
  | row parts => hrow _ fun part hpart =>
    sourceAll_induction hleaf hrow hcolumn parts part (List.mem_of_mem_filter hpart)
  | column parts gap trailingGap => hcolumn gap trailingGap _ fun part hpart =>
    sourceAll_induction hleaf hrow hcolumn parts part (List.mem_of_mem_filter hpart)

theorem sourceAll_induction {P : Text → Prop} (hleaf : ∀ a, P (leafText a))
    (hrow : ∀ parts, (∀ part ∈ parts, P part) → P (rowSource parts))
    (hcolumn : ∀ gap trailingGap parts, (∀ part ∈ parts, P part) →
      P (columnSource gap trailingGap parts)) :
    ∀ parts : List (Layout α), ∀ text ∈ sourceAll leafText parts, P text
  | [], text, h => by cases h
  | part :: rest, text, h => by
    rw [sourceAll] at h
    rcases List.mem_cons.1 h with rfl | h
    · exact source_induction hleaf hrow hcolumn part
    · exact sourceAll_induction hleaf hrow hcolumn rest text h

end

theorem sealed_source (hleaf : ∀ a, Sealed (leafText a)) (t : Layout α) :
    Sealed (t.source leafText) :=
  source_induction hleaf (fun _ => sealed_rowSource)
    (fun gap trailingGap _ => sealed_columnSource gap trailingGap) t

/-- The parts that a row or a column is made of. -/
theorem sealed_parts (hleaf : ∀ a, Sealed (leafText a)) (parts : List (Layout α)) :
    ∀ part ∈ (sourceAll leafText parts).filter (!·.isEmpty), Sealed part := fun part hpart =>
  sourceAll_induction hleaf (fun _ => sealed_rowSource)
    (fun gap trailingGap _ => sealed_columnSource gap trailingGap) parts part
    (List.mem_of_mem_filter hpart)

theorem wellBracketed_source (hleaf : ∀ a, WellBracketed (leafText a)) (t : Layout α) :
    WellBracketed (t.source leafText) :=
  source_induction hleaf (fun _ => wellBracketed_rowSource)
    (fun gap trailingGap _ => wellBracketed_columnSource gap trailingGap) t

/-- Parts that have no source are those whose skeleton has none. -/
theorem map_skeleton_filter (texts : List Text) :
    (texts.filter (!·.isEmpty)).map skeleton = (texts.map skeleton).filter (!·.isEmpty) := by
  rw [List.filter_map]
  congr 1
  refine List.filter_congr fun text _ => ?_
  rw [Function.comp_apply, Bool.eq_iff_iff, Bool.not_eq_true', Bool.not_eq_true',
    List.isEmpty_eq_false_iff, List.isEmpty_eq_false_iff, ne_eq, ne_eq, skeleton_eq_nil_iff]

mutual

theorem skeleton_source (hleaf : ∀ a, Sealed (leafText a)) :
    ∀ t : Layout α, skeleton (t.source leafText) = t.source fun a => skeleton (leafText a)
  | leaf a => rfl
  | row parts => by
    rw [source, source, skeleton_rowSource (sealed_parts hleaf parts), map_skeleton_filter,
      map_skeleton_sourceAll hleaf parts]
  | column parts gap trailingGap => by
    rw [source, source, skeleton_columnSource gap trailingGap (sealed_parts hleaf parts),
      map_skeleton_filter, map_skeleton_sourceAll hleaf parts]

theorem map_skeleton_sourceAll (hleaf : ∀ a, Sealed (leafText a)) :
    ∀ parts : List (Layout α),
      (sourceAll leafText parts).map skeleton = sourceAll (fun a => skeleton (leafText a)) parts
  | [] => rfl
  | part :: rest => by
    rw [sourceAll, sourceAll, List.map_cons, skeleton_source hleaf part,
      map_skeleton_sourceAll hleaf rest]

end

theorem wellFormed_source (hleaf : ∀ a, WellFormed (leafText a)) (t : Layout α) :
    WellFormed (t.source leafText) := by
  refine ⟨sealed_source (fun a => (hleaf a).toSealed) t, ?_⟩
  rw [skeleton_source fun a => (hleaf a).toSealed]
  exact wellBracketed_source (fun a => (hleaf a).wellBracketed) t

/-! ## Literals of a column of rows -/

/-- How far the parts of a row are indented by the row. -/
def partLevels (row : List α) : Nat := if row.length = 1 then 0 else 3

theorem flatMap_filter {β γ : Type} {p : β → Bool} {f : β → List γ} {items : List β}
    (h : ∀ b ∈ items, p b = false → f b = []) : (items.filter p).flatMap f = items.flatMap f := by
  induction items with
  | nil => rfl
  | cons b items ih =>
    obtain ⟨hb, hitems⟩ := List.forall_mem_cons.1 h
    rw [List.flatMap_cons, ← ih hitems]
    cases hp : p b with
    | true => rw [List.filter_cons_of_pos hp, List.flatMap_cons]
    | false => rw [List.filter_cons_of_neg (by rw [hp]; decide), hb hp, List.nil_append]

theorem flatMap_literals_filter (texts : List Text) :
    (texts.filter (!·.isEmpty)).flatMap literals = texts.flatMap literals :=
  flatMap_filter fun text _ h => by
    rw [Bool.not_eq_false', List.isEmpty_iff] at h
    rw [h]
    rfl

theorem literals_ofRow (hleaf : ∀ a, Sealed (leafText a)) (row : List α) :
    literals ((ofRow row).source leafText) =
      (row.flatMap fun a => literals (leafText a)).map (indentBody (partLevels row)) := by
  have hrow (parts : List α) : literals ((Layout.row (parts.map leaf)).source leafText) =
      (parts.flatMap fun a => literals (leafText a)).map (indentBody 3) := by
    rw [source, literals_rowSource (sealed_parts hleaf (parts.map leaf)), flatMap_literals_filter,
      sourceAll_eq_map, List.map_map, List.flatMap_map]
    rfl
  match row with
  | [] => exact hrow []
  | [a] =>
    have hzero : indentBody (partLevels [a]) = id := funext indentBody_zero
    rw [hzero, List.map_id, List.flatMap_singleton]
    rfl
  | a :: b :: rest => exact hrow (a :: b :: rest)

theorem literals_ofRows (hleaf : ∀ a, Sealed (leafText a)) (rows : List (List α)) (gap : Int) :
    literals ((ofRows rows gap).source leafText) =
      rows.flatMap fun row => (row.flatMap fun a => literals (leafText a)).map
        (indentBody (2 + partLevels row)) := by
  rw [ofRows, source, literals_columnSource gap true (sealed_parts hleaf _),
    flatMap_literals_filter, sourceAll_eq_map, List.map_map, List.flatMap_map, List.map_flatMap,
    flatMap_filter]
  · refine List.flatMap_congr fun row _ => ?_
    rw [Function.comp_apply, literals_ofRow hleaf, List.map_map]
    exact List.map_congr_left fun body _ => indentBody_indentBody 2 (partLevels row) body
  · intro row _ h
    rw [Bool.not_eq_false', List.isEmpty_iff] at h
    rw [h]
    rfl

theorem mem_leaves_ofRows {rows : List (List α)} {gap : Int} {row : List α} {a : α}
    (hrow : row ∈ rows) (ha : a ∈ row) : a ∈ (ofRows rows gap).leaves := by
  have hfilter : row ∈ rows.filter fun row => !row.isEmpty := by
    refine List.mem_filter.2 ⟨hrow, ?_⟩
    rw [Bool.not_eq_true', List.isEmpty_eq_false_iff]
    exact List.ne_nil_of_mem ha
  rw [ofRows, leaves, leavesOfAll_map_ofRow]
  exact List.mem_flatten_of_mem hfilter ha

/-- The source of a column has more than one line, and no literal on the first. -/
theorem exists_columnSource_line (gap : Int) (trailingGap : Bool) (parts : List Text) :
    ∃ first rest, isPlain first = true ∧ CodePoint.lineFeed ∉ first ∧
      columnSource gap trailingGap parts = first ++ CodePoint.lineFeed :: rest := by
  have hmem : CodePoint.lineFeed ∈ columnOpening :=
    Text.of_chars (P := fun t => CodePoint.lineFeed ∈ t) (by decide)
  obtain ⟨first, rest, hfirst, hnot, hopening⟩ := exists_isPlain_line isPlain_columnOpening hmem
  refine ⟨first, ?_⟩
  by_cases hparts : parts = []
  · rw [hparts, columnSource_nil, hopening, List.append_assoc]
    exact ⟨_, hfirst, hnot, rfl⟩
  · rw [columnSource_eq gap trailingGap hparts, hopening, List.append_assoc, List.append_assoc]
    exact ⟨_, hfirst, hnot, rfl⟩

end Layout

end Wireframe
