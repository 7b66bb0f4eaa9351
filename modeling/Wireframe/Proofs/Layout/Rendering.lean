import Wireframe.Proofs.Layout.Plan
import Wireframe.Proofs.Widget.Fragment

/-!
# Rendering of detections

A tree of detections, of any shape, is rendered as its plan says (`Canvas.render_faithful`): every
detection but a status bar has its widget once, in the order of the tree, and its texts stand in
literals in that order too. What is rendered ends with a parenthesis, so that the comma of a list
entry is the only one at its end.
-/
namespace Wireframe

open Dart

open DartLiteral (escape)

/-! ## Ends of templates -/

namespace Dart.Block

theorem head?_source {block : Block} {c : Char} {chars : List Char} {line : Line}
    (h : block.head? = some (.code (String.ofList (c :: chars)) :: line)) :
    block.source.head? = some c.toNat := by
  obtain ⟨rest, rfl⟩ := List.head?_eq_some_iff.1 h
  have hcode : (Piece.code (String.ofList (c :: chars))).text = (c :: chars).map Char.toNat :=
    Text.of_chars (P := fun t => t = (c :: chars).map Char.toNat) rfl
  have hline : Line.text (.code (String.ofList (c :: chars)) :: line) =
      c.toNat :: (chars.map Char.toNat ++ Line.text line) := by
    rw [Line.text, List.flatMap_cons, hcode]
    rfl
  rw [source, List.map_cons, hline]
  cases rest with
  | nil => rfl
  | cons next rest =>
    rw [List.map_cons, Text.join_cons_cons]
    rfl

theorem getLast?_source {block : Block} {c : Char}
    (h : block.getLast? = some [.code (String.ofList [c])]) :
    block.source.getLast? = some c.toNat := by
  obtain ⟨first, rfl⟩ := List.getLast?_eq_some_iff.1 h
  clear h
  induction first with
  | nil =>
    have hcode : (Piece.code (String.ofList [c])).text = [c.toNat] :=
      Text.of_chars (P := fun t => t = [c.toNat]) rfl
    rw [List.nil_append, source, List.map_singleton, Line.text, List.flatMap_singleton, hcode]
    rfl
  | cons line first ih =>
    obtain ⟨next, rest, hrest⟩ := List.exists_cons_of_ne_nil (List.append_ne_nil_of_right_ne_nil
      first (List.cons_ne_nil [Piece.code (String.ofList [c])] []))
    rw [hrest] at ih
    rw [List.cons_append, hrest, source, List.map_cons, List.map_cons, Text.join_cons_cons]
    rw [source, List.map_cons] at ih
    simp only [List.getLast?_append, ih, Option.some_or]

end Dart.Block

namespace Widget

theorem source_statusBar (w : Widget) : w.source .statusBar = [] := rfl

/-- Templates begin with a name and end with a parenthesis. -/
theorem ends_source (w : Widget) {kind : Kind} (h : kind ≠ .statusBar) :
    (∃ c, (w.source kind).head? = some c ∧ c ≠ CodePoint.space) ∧
      (w.source kind).getLast? = some 0x29 := by
  cases kind with
  | statusBar => exact absurd rfl h
  | _ => exact ⟨⟨_, Block.head?_source rfl, by decide⟩, Block.getLast?_source (c := ')') rfl⟩

end Widget

/-! ## Trees -/

namespace Layout

variable {α ε : Type}

/-- A list of parts is rendered exactly when each part is. -/
theorem renderAll_eq_ok_iff {leafSource : α → Except ε Text} {parts : List (Layout α)}
    {texts : List Text} :
    renderAll leafSource parts = .ok texts ↔
      List.Forall₂ (fun part text => render leafSource part = .ok text) parts texts := by
  induction parts generalizing texts with
  | nil =>
    rw [renderAll]
    constructor
    · intro h
      cases h
      exact .nil
    · intro h
      cases h
      rfl
  | cons part rest ih =>
    constructor
    · intro h
      rw [renderAll] at h
      obtain ⟨text, htext, h⟩ := bind_eq_ok h
      obtain ⟨texts, htexts, h⟩ := bind_eq_ok h
      cases h
      exact .cons htext (ih.1 htexts)
    · intro h
      cases h with
      | cons htext htexts => rw [renderAll, htext, ih.2 htexts]; rfl

theorem rowSource_eq_nil_iff {parts : List Text} : rowSource parts = [] ↔ parts = [] := by
  constructor
  · intro h
    by_cases hparts : parts = []
    · exact hparts
    · have hopening : rowOpening ≠ [] := Text.of_chars (P := fun t => t ≠ []) (by decide)
      rw [rowSource_eq hparts] at h
      exact absurd h (List.append_ne_nil_of_left_ne_nil hopening _)
  · rintro rfl
    rfl

/-- A row shows nothing exactly when none of its parts shows anything. -/
theorem render_row_eq_nil_iff {leafSource : α → Except ε Text} (parts : List (Layout α)) :
    render leafSource (row parts) = .ok [] ↔
      ∀ part ∈ parts, render leafSource part = .ok [] := by
  rw [render]
  constructor
  · intro h
    obtain ⟨texts, htexts, hrow⟩ := bind_eq_ok h
    have hnil := rowSource_eq_nil_iff.1 (Except.ok.inj hrow)
    have hempty : ∀ text ∈ texts, text = [] := by
      intro text htext
      simpa using List.filter_eq_nil_iff.1 hnil text htext
    have hparts := renderAll_eq_ok_iff.1 htexts
    clear h hrow hnil htexts
    induction hparts with
    | nil => exact fun part hpart => absurd hpart List.not_mem_nil
    | cons hpart _ ih =>
      rw [List.forall_mem_cons] at hempty ⊢
      rw [hempty.1] at hpart
      exact ⟨hpart, ih hempty.2⟩
  · intro h
    have htexts : renderAll leafSource parts = .ok (parts.map fun _ => []) := by
      rw [renderAll_eq_ok_iff, List.forall₂_map_right_iff, List.forall₂_same]
      exact h
    have hfilter : (parts.map fun _ => ([] : Text)).filter (!·.isEmpty) = [] := by
      rw [List.filter_eq_nil_iff]
      simp
    rw [htexts]
    show Except.ok (rowSource ((parts.map fun _ => ([] : Text)).filter (!·.isEmpty))) = _
    rw [hfilter]
    rfl

theorem render_column_ne_nil {leafSource : α → Except ε Text} (parts : List (Layout α)) (gap : Int)
    (trailingGap : Bool) : render leafSource (column parts gap trailingGap) ≠ .ok [] := by
  intro h
  rw [render] at h
  obtain ⟨texts, -, h⟩ := bind_eq_ok h
  obtain ⟨first, rest, -, -, hline⟩ :=
    exists_columnSource_line gap trailingGap (texts.filter (!·.isEmpty))
  have hnil := Except.ok.inj h
  rw [hline] at hnil
  exact List.append_ne_nil_of_right_ne_nil first (List.cons_ne_nil _ rest) hnil

/-- Source of a tree ends with a parenthesis where that of its leaves does. -/
theorem getLast?_source {leafText : α → Text}
    (hleaf : ∀ a, leafText a = [] ∨ (leafText a).getLast? = some 0x29) (t : Layout α) :
    t.source leafText = [] ∨ (t.source leafText).getLast? = some 0x29 := by
  have hlist : listClosing.getLast? = some 0x29 :=
    Text.of_chars (P := fun t => t.getLast? = some 0x29) (by decide)
  have hcolumn : columnClosing.getLast? = some 0x29 :=
    Text.of_chars (P := fun t => t.getLast? = some 0x29) (by decide)
  refine source_induction (P := fun t => t = [] ∨ t.getLast? = some 0x29) hleaf ?_ ?_ t
  · intro parts _
    by_cases hparts : parts = []
    · exact .inl (by rw [hparts]; rfl)
    · refine .inr ?_
      rw [rowSource_eq hparts, List.getLast?_append, List.getLast?_append, hlist]
      rfl
  · intro gap trailingGap parts _
    refine .inr ?_
    by_cases hparts : parts = []
    · rw [hparts, columnSource_nil, List.getLast?_append, hcolumn]
      rfl
    · rw [columnSource_eq gap trailingGap hparts, List.getLast?_append, List.getLast?_append, hlist]
      rfl

section Literals

/-- The content of a literal that was made for a text, indented any number of times. -/
def Holds (text body : Text) : Prop := ∃ levels, body = indentBody levels (escape text)

theorem Holds.indent {text body : Text} (h : Holds text body) (levels : Nat) :
    Holds text (indentBody levels body) := by
  obtain ⟨levels', rfl⟩ := h
  exact ⟨levels + levels', indentBody_indentBody levels levels' _⟩

variable {leafText : α → Text} {shown : α → List Text}

mutual

theorem holds_source (hsealed : ∀ a, Sealed (leafText a)) : ∀ t : Layout α,
    (∀ a ∈ t.leaves, List.Forall₂ Holds (shown a) (literals (leafText a))) →
      List.Forall₂ Holds (t.leaves.flatMap shown) (literals (t.source leafText))
  | leaf a, h => by
    rw [leaves, List.flatMap_singleton]
    exact h a (List.mem_singleton_self a)
  | row parts, h => by
    rw [source, literals_rowSource (sealed_parts hsealed parts), flatMap_literals_filter, leaves,
      List.forall₂_map_right_iff]
    exact (holds_sourceAll hsealed parts h).imp fun _ _ hholds => hholds.indent 3
  | column parts gap trailingGap, h => by
    rw [source, literals_columnSource gap trailingGap (sealed_parts hsealed parts),
      flatMap_literals_filter, leaves, List.forall₂_map_right_iff]
    exact (holds_sourceAll hsealed parts h).imp fun _ _ hholds => hholds.indent 2

theorem holds_sourceAll (hsealed : ∀ a, Sealed (leafText a)) : ∀ parts : List (Layout α),
    (∀ a ∈ leavesOfAll parts, List.Forall₂ Holds (shown a) (literals (leafText a))) →
      List.Forall₂ Holds ((leavesOfAll parts).flatMap shown)
        ((sourceAll leafText parts).flatMap literals)
  | [], _ => .nil
  | part :: rest, h => by
    rw [leavesOfAll, List.flatMap_append, sourceAll, List.flatMap_cons]
    exact List.rel_append
      (holds_source hsealed part fun a ha => h a (List.mem_append_left _ ha))
      (holds_sourceAll hsealed rest fun a ha => h a (List.mem_append_right _ ha))

end

end Literals

end Layout

/-! ## Detections -/

/-- Whether there is a widget for a detection: the page has a status bar of its own. -/
def Detection.isShown (d : Detection) : Bool := d.kind != .statusBar

namespace Canvas

/-- The source of the widget of a detection; nothing where the canvas lacks a side. -/
def widgetText (canvas : Canvas) (d : Detection) : Text :=
  ((canvas.fragment d).map (·.code)).toOption.getD []

/-- Source that renders the detections of a tree as the plan of the tree says. -/
structure Renders (canvas : Canvas) (tree : Layout Detection) (code : Text) : Prop where
  /-- Without contents of literals and leading spaces, the source is what the plan reads. -/
  reads : flushLeft (skeleton code) = (tree.plan Detection.isShown).text fun d =>
    flushLeft (skeleton (canvas.widgetText d))
  eq_nil_iff : code = [] ↔ tree.plan Detection.isShown = []
  /-- There is no comma at the end. -/
  ends : code = [] ∨ code.getLast? = some 0x29
  literals : List.Forall₂ Layout.Holds (tree.leaves.flatMap Detection.shownTexts) (literals code)

variable (canvas : Canvas) {tree : Layout Detection}

theorem widgetText_cases (d : Detection) :
    (∃ width height, canvas.widgetText d = leafText width height d) ∨
      (canvas.fragment d).map (·.code) = .error .wholeTooLarge ∧ canvas.widgetText d = [] := by
  rcases sides_cases canvas with ⟨width, height, hwidth, hheight⟩ | hmissing
  · refine .inl ⟨width, height, ?_⟩
    rw [widgetText, fragment_code hwidth hheight]
    rfl
  · refine .inr ⟨fragment_code_of_missing hmissing d, ?_⟩
    rw [widgetText, fragment_code_of_missing hmissing]
    rfl

theorem sealed_widgetText (d : Detection) : Sealed (canvas.widgetText d) := by
  rcases widgetText_cases canvas d with ⟨width, height, h⟩ | ⟨-, h⟩
  · rw [h]
    exact (wellFormed_leafText width height d).toSealed
  · rw [h]
    exact .nil

theorem leafText_statusBar (width height : Binary64) {d : Detection} (h : d.kind = .statusBar) :
    leafText width height d = [] := by
  rw [leafText, h, Widget.source_statusBar]

theorem getLast?_leafText (width height : Binary64) {d : Detection} (h : d.kind ≠ .statusBar) :
    (leafText width height d).getLast? = some 0x29 := (Widget.ends_source _ h).2

/-- Only a status bar has no widget. -/
theorem leafText_eq_nil_iff (width height : Binary64) (d : Detection) :
    leafText width height d = [] ↔ d.isShown = false := by
  by_cases hkind : d.kind = .statusBar
  · simp [leafText_statusBar width height hkind, Detection.isShown, hkind]
  · have hne : leafText width height d ≠ [] := by
      intro hnil
      have hlast := getLast?_leafText width height hkind
      rw [hnil] at hlast
      cases hlast
    simp [hne, Detection.isShown, hkind]

theorem ends_leafText (width height : Binary64) (d : Detection) :
    leafText width height d = [] ∨ (leafText width height d).getLast? = some 0x29 := by
  by_cases hkind : d.kind = .statusBar
  · exact .inl (leafText_statusBar width height hkind)
  · exact .inr (getLast?_leafText width height hkind)

theorem ends_widgetText (d : Detection) :
    canvas.widgetText d = [] ∨ (canvas.widgetText d).getLast? = some 0x29 := by
  rcases widgetText_cases canvas d with ⟨width, height, h⟩ | ⟨-, h⟩
  · rw [h]
    exact ends_leafText width height d
  · exact .inl h

variable {canvas}

/-- Where a canvas has both sides, the widget of a detection is its plan. -/
theorem yields_leaf {width height : Binary64} {d : Detection}
    (h : canvas.widgetText d = leafText width height d) :
    ((Layout.leaf d).plan Detection.isShown).Yields
      (fun d => flushLeft (skeleton (canvas.widgetText d))) (skeleton (canvas.widgetText d)) := by
  rw [Layout.plan]
  by_cases hkind : d.kind = .statusBar
  · have hshown : d.isShown = false := by simp [Detection.isShown, hkind]
    rw [hshown, h, leafText_statusBar width height hkind]
    exact .nil
  · have hshown : d.isShown = true := by simp [Detection.isShown, hkind]
    obtain ⟨c, hhead, hc⟩ := (Widget.ends_source ⟨d.caption, pixels d.box.width width,
      pixels d.box.height height⟩ hkind).1
    rw [hshown, if_pos rfl]
    refine .of_cons (c := c) (List.append_nil _).symm ?_ hc
    rw [head?_skeleton, h]
    exact hhead

theorem renders_source {tree : Layout Detection}
    (h : ∀ d ∈ tree.leaves, ∃ width height, canvas.widgetText d = leafText width height d) :
    canvas.Renders tree (tree.source canvas.widgetText) := by
  have hyields : (tree.plan Detection.isShown).Yields
      (fun d => flushLeft (skeleton (canvas.widgetText d)))
      (tree.source fun d => skeleton (canvas.widgetText d)) := by
    refine Layout.yields_source tree ?_
    intro d hd
    obtain ⟨width, height, hwidget⟩ := h d hd
    exact yields_leaf hwidget
  rw [← Layout.skeleton_source (sealed_widgetText canvas)] at hyields
  refine ⟨hyields.flush, ?_, Layout.getLast?_source (ends_widgetText canvas) tree, ?_⟩
  · rw [← skeleton_eq_nil_iff, ← List.isEmpty_iff, ← List.isEmpty_iff, hyields.isEmpty_iff]
  · refine Layout.holds_source (sealed_widgetText canvas) tree ?_
    intro d hd
    obtain ⟨width, height, hwidget⟩ := h d hd
    rw [hwidget, literals_leafText, List.forall₂_map_right_iff, List.forall₂_same]
    exact fun text _ => ⟨0, (indentBody_zero _).symm⟩

/-- A tree without detections is rendered on any canvas. -/
theorem missing_of_render_eq_error {tree : Layout Detection} {fault : Fault}
    (h : canvas.render tree = .error fault) :
    (canvas.width = none ∨ canvas.height = none) ∧ tree.leaves ≠ [] := by
  constructor
  · rcases sides_cases canvas with ⟨width, height, hwidth, hheight⟩ | hmissing
    · rw [render_eq_source hwidth hheight] at h
      cases h
    · exact hmissing
  · intro hleaves
    have hrender : canvas.render tree = .ok (tree.source canvas.widgetText) := by
      refine Layout.render_eq_ok_iff.2 ⟨?_, rfl⟩
      rw [hleaves]
      exact fun d hd => absurd hd List.not_mem_nil
    rw [hrender] at h
    cases h

variable (canvas)

/-- **What a tree of detections is rendered as.** A canvas that lacks a side renders no tree with a
detection in it. Otherwise a tree of any shape is rendered, as its plan says; the widgets of the
plan are those of its detections other than status bars, each once and in order. A row shows
nothing exactly when none of its parts does, and a column always shows something.

The tree may be nested as deep and its gaps be as long as they will: the limits of an interpreter,
at which nothing is rendered, are not counted here. -/
theorem render_faithful (tree : Layout Detection) :
    ((canvas.width = none ∨ canvas.height = none) ∧ tree.leaves ≠ [] ∧
        (∃ fault, canvas.render tree = .error fault) ∨
      ∃ code, canvas.render tree = .ok code ∧ canvas.Renders tree code) ∧
    (tree.plan Detection.isShown).elements = tree.leaves.filter Detection.isShown ∧
    (∀ parts, canvas.render (.row parts) = .ok [] ↔
      ∀ part ∈ parts, canvas.render part = .ok []) ∧
    ∀ parts gap trailingGap, canvas.render (.column parts gap trailingGap) ≠ .ok [] := by
  refine ⟨?_, Layout.elements_plan Detection.isShown tree, Layout.render_row_eq_nil_iff,
    Layout.render_column_ne_nil⟩
  cases hrender : canvas.render tree with
  | error fault =>
    obtain ⟨hmissing, hleaves⟩ := missing_of_render_eq_error hrender
    exact .inl ⟨hmissing, hleaves, fault, rfl⟩
  | ok code =>
    obtain ⟨hleaves, rfl⟩ := Layout.render_eq_ok_iff.1 hrender
    refine .inr ⟨_, rfl, renders_source ?_⟩
    intro d hd
    rcases widgetText_cases canvas d with hwidget | ⟨herror, -⟩
    · exact hwidget
    · obtain ⟨text, htext⟩ := hleaves d hd
      rw [herror] at htext
      cases htext

end Canvas

end Wireframe
