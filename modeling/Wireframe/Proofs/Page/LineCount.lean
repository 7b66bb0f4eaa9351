import Wireframe.Proofs.Layout.LineCount
import Wireframe.Proofs.Page.Fidelity
import Wireframe.Proofs.Widget.Lines

/-!
# How long a page is

The number of lines that is reported with a page is a matter of the kinds of its detections and of
the rows that they stand in (`Generator.generate_lineCount`). Labels, sizes and indentation have no
say in it, and what is not shown takes no line.
-/
namespace Wireframe

open Dart

open CodePoint (lineFeed)

/-! ## Rows -/

/-- How many lines a row has in a page. -/
def rowLineCount : List Detection → Nat
  | [d] => d.kind.lineCount
  | row => 5 + ((row.filter Detection.isShown).map fun d => d.kind.lineCount + 2).sum

/-- How many lines the rows of a page have, with a spacer below each. Rows that show nothing have
none. -/
def rowsLineCount (rows : List (List Detection)) : Nat :=
  ((rows.filter (·.any Detection.isShown)).map fun row => 1 + rowLineCount row).sum

namespace Canvas

variable (width height : Binary64)

theorem lineCount_leafText {d : Detection} (h : d.isShown = true) :
    (leafText width height d).lineCount = d.kind.lineCount := by
  refine Widget.lineCount_source _ fun hkind => ?_
  rw [Detection.isShown, hkind] at h
  cases h

/-- The parts of a row are the widgets of what is shown. -/
theorem filter_sourceAll_leaf (row : List Detection) :
    (Layout.sourceAll (leafText width height) (row.map .leaf)).filter (!·.isEmpty) =
      (row.filter Detection.isShown).map (leafText width height) := by
  have hshown : ((!·.isEmpty) ∘ leafText width height) = Detection.isShown := by
    funext d
    have hnil := leafText_eq_nil_iff width height d
    cases hd : d.isShown <;> simp_all
  rw [Layout.sourceAll_eq_map, List.map_map, ← hshown, ← List.filter_map]
  rfl

theorem source_ofRow_eq_nil_iff (row : List Detection) :
    (Layout.ofRow row).source (leafText width height) = [] ↔
      row.any Detection.isShown = false := by
  have hrow (row : List Detection) :
      (Layout.row (row.map .leaf)).source (leafText width height) = [] ↔
        row.any Detection.isShown = false := by
    rw [Layout.source, Layout.rowSource_eq_nil_iff, filter_sourceAll_leaf, List.map_eq_nil_iff,
      List.filter_eq_nil_iff, List.any_eq_false]
  match row with
  | [] => exact hrow []
  | [d] =>
    rw [List.any_cons, List.any_nil, Bool.or_false]
    exact leafText_eq_nil_iff width height d
  | d :: d' :: rest => exact hrow (d :: d' :: rest)

theorem lineCount_source_ofRow {row : List Detection} (h : row.any Detection.isShown = true) :
    ((Layout.ofRow row).source (leafText width height)).lineCount = rowLineCount row := by
  match row with
  | [] => cases h
  | [d] =>
    rw [List.any_cons, List.any_nil, Bool.or_false] at h
    exact lineCount_leafText width height h
  | d :: d' :: rest =>
    have hne : ((d :: d' :: rest).filter Detection.isShown).map (leafText width height) ≠ [] := by
      rw [ne_eq, List.map_eq_nil_iff, List.filter_eq_nil_iff, ← List.any_eq_false, h]
      decide
    have hrow : (Layout.ofRow (d :: d' :: rest)).source (leafText width height) =
        Layout.rowSource (((d :: d' :: rest).filter Detection.isShown).map
          (leafText width height)) := by
      rw [← filter_sourceAll_leaf]
      rfl
    rw [hrow, Layout.lineCount_rowSource hne, rowLineCount, List.map_map]
    · congr 2
      refine List.map_congr_left fun d hd => ?_
      rw [Function.comp_apply, lineCount_leafText width height (List.mem_filter.1 hd).2]
    · exact fun d h => by cases h

/-- The parts of the column of a page are the rows that show something. -/
theorem filter_sourceAll_ofRow (rows : List (List Detection)) :
    (Layout.sourceAll (leafText width height)
        ((rows.filter fun row => !row.isEmpty).map Layout.ofRow)).filter (!·.isEmpty) =
      (rows.filter (·.any Detection.isShown)).map fun row =>
        (Layout.ofRow row).source (leafText width height) := by
  have hshown (row : List Detection) :
      (!((Layout.ofRow row).source (leafText width height)).isEmpty && !row.isEmpty) =
        row.any Detection.isShown := by
    have hnil := source_ofRow_eq_nil_iff width height row
    cases hany : row.any Detection.isShown with
    | false => simp [hnil.2 hany]
    | true =>
      have hrow : row ≠ [] := by
        rintro rfl
        cases hany
      have hsource : (Layout.ofRow row).source (leafText width height) ≠ [] := fun h => by
        rw [hnil.1 h] at hany
        cases hany
      simp [hrow, hsource]
  rw [Layout.sourceAll_eq_map, List.map_map, List.filter_map, List.filter_filter]
  congr 1
  exact List.filter_congr fun row _ => hshown row

/-- The column of a page has lines of its own and those of the rows that show something. -/
theorem lineCount_source_ofRows (rows : List (List Detection)) (gap : Int) :
    ((Layout.ofRows rows gap).source (leafText width height)).lineCount =
      if rows.flatten.any Detection.isShown then 5 + rowsLineCount rows else 4 := by
  rw [Layout.ofRows, Layout.source, filter_sourceAll_ofRow, List.any_flatten]
  by_cases hshown : rows.any (·.any Detection.isShown) = true
  · have hne : ((rows.filter (·.any Detection.isShown)).map fun row =>
        (Layout.ofRow row).source (leafText width height)) ≠ [] := by
      rw [ne_eq, List.map_eq_nil_iff, List.filter_eq_nil_iff, ← List.any_eq_false, hshown]
      decide
    rw [if_pos hshown, Layout.lineCount_columnSource gap hne, rowsLineCount, List.map_map]
    congr 2
    refine List.map_congr_left fun row hrow => ?_
    rw [Function.comp_apply, lineCount_source_ofRow width height (List.mem_filter.1 hrow).2]
  · have hnone : rows.filter (·.any Detection.isShown) = [] := by
      rw [List.filter_eq_nil_iff, ← List.any_eq_false]
      exact Bool.eq_false_iff.2 hshown
    rw [if_neg hshown, hnone]
    exact Layout.lineCount_emptyColumn gap true

end Canvas

/-! ## Pages -/

namespace Page

theorem lineCount_scaffold {name : Text} (hname : lineFeed ∉ name) (body : Text) :
    (scaffold name body).source.lineCount = 25 + body.lineCount := by
  have hunbroken : Block.isUnbroken (Block.fixed (scaffold name body)) = true :=
    Block.of_spelled (P := fun fixed => Block.isUnbroken fixed = true) (by repeat' constructor)
      (by decide +kernel)
  have hne : scaffold name body ≠ [] := List.cons_ne_nil _ _
  have hcount : name.count lineFeed = 0 := List.count_eq_zero_of_not_mem hname
  rw [Block.lineCount_source hne hunbroken, Text.lineCount]
  simp [scaffold, Piece.feeds, hcount]
  omega

theorem lineFeed_not_mem_of_isAlphanumeric {name : Text}
    (h : ∀ c ∈ name, CodePoint.isAlphanumeric c = true) : lineFeed ∉ name := fun hmem =>
  absurd (h lineFeed hmem) (by decide)

/-- A body that does not end in a line feed has all its lines in a page. -/
theorem lineCount_enclose (given : Text) {body fallback : Text}
    (hfallback : ∀ c ∈ fallback, CodePoint.isAlphanumeric c = true) (hbody : body ≠ [])
    (hend : body.getLast? ≠ some lineFeed) :
    (enclose given body fallback).lineCount = 25 + body.lineCount := by
  have hname : lineFeed ∉ PageName.ofText given fallback :=
    lineFeed_not_mem_of_isAlphanumeric (PageName.mem_ofText hfallback)
  rw [enclose, List.isEmpty_eq_false_iff.2 hbody, if_neg Bool.false_ne_true,
    lineCount_scaffold hname, lineCount_hangingIndent bodyLevels hend]

end Page

namespace Generator

theorem lineCount_of_generate_eq_ok {g : Generator}
    (hname : ∀ c ∈ g.defaultPageName, CodePoint.isAlphanumeric c = true)
    {detections : List Detection} {given : Option Text} {page : Page}
    (h : g.generate detections given = .ok page) :
    page.lineCount =
      if detections.any Detection.isShown then 30 + rowsLineCount (g.rows detections) else 29 := by
  obtain ⟨body, hbody, -, rfl⟩ := generate_eq_ok_iff.1 h
  have hany : (g.rows detections).flatten.any Detection.isShown =
      detections.any Detection.isShown :=
    (readingOrder_perm id g.rowThreshold g.rowStrategy detections).any_eq
  have hne : body ≠ [] := fun hnil => by
    rw [hnil] at hbody
    exact Layout.render_column_ne_nil _ _ _ hbody
  obtain ⟨width, height, rfl⟩ := Canvas.exists_source_of_render_eq_ok hbody
  have hend : ((Layout.ofRows (g.rows detections) g.columnGap).source
      (Canvas.leafText width height)).getLast? ≠ some lineFeed := by
    rcases Layout.getLast?_source (Canvas.ends_leafText width height) _ with hnil | hlast
    · exact absurd hnil hne
    · rw [hlast]
      decide
  rw [Page.lineCount, Page.lineCount_enclose _ hname hne hend, Canvas.lineCount_source_ofRows, hany]
  split
  · rw [← Nat.add_assoc]
  · rfl

/-- **How long a page is.** There is a page unless the canvas lacks a side and there is something to
measure, or the gap has more digits than an interpreter writes. It has 29 lines if none of its
detections is shown. Else it has 30, and for each row that shows something one for a spacer and
those of the row: the lines of the one template, or five and, for each part that is shown, those of
its template and two more. Templates have as many lines as their kind says, whatever they show, of
whatever size, however far they are indented. -/
theorem generate_lineCount {settings : Settings} {options : GeneratorOptions} {g : Generator}
    (hbuild : build settings options = .ok g) (detections : List Detection) (given : Option Text) :
    ((∃ page, g.generate detections given = .ok page) ↔
      (detections = [] ∨ g.canvas.HasSides) ∧ Numeral.isWritable g.columnGap = true) ∧
    (∀ page, g.generate detections given = .ok page →
      page.lineCount = if detections.any Detection.isShown then
        30 + rowsLineCount (g.rows detections) else 29) ∧
    ∀ (w : Widget) (kind : Kind) (levels : Nat), kind ≠ .statusBar →
      (indent levels (w.source kind)).lineCount = kind.lineCount := by
  refine ⟨exists_generate_iff g detections given, ?_, ?_⟩
  · intro page hpage
    exact lineCount_of_generate_eq_ok (alphanumeric_of_build hbuild) hpage
  · intro w kind levels hkind
    rw [lineCount_indent, Widget.lineCount_source w hkind]

section Rows

/-- A button beside a status bar and a label, and below them a status bar alone. -/
def shortRows : List Detection :=
  [⟨.button, ⟨.zero, .zero, .one, .one⟩, .one, some [0x61, 0x0A, 0x62]⟩,
    ⟨.statusBar, ⟨.zero, .zero, .one, .one⟩, .one, none⟩,
    ⟨.text, ⟨.one, .zero, .one, .one⟩, .one, none⟩,
    ⟨.statusBar, ⟨.zero, .one, .one, .one⟩, .one, none⟩]

theorem rows_shortRows :
    unitGenerator.rows shortRows = [shortRows.take 3, shortRows.drop 3] := by
  have hsorted : shortRows.mergeSort (verticalOrder id) = shortRows :=
    List.mergeSort_of_pairwise (by decide +kernel)
  have hdivided : divideRows id unitGenerator.rowThreshold unitGenerator.rowStrategy shortRows =
      [shortRows.take 3, shortRows.drop 3] := by
    decide +kernel
  have hfirst : (shortRows.take 3).mergeSort (horizontalOrder id) = shortRows.take 3 :=
    List.mergeSort_of_pairwise (by decide +kernel)
  have hsecond : (shortRows.drop 3).mergeSort (horizontalOrder id) = shortRows.drop 3 :=
    List.mergeSort_of_pairwise (by decide +kernel)
  rw [rows, groupRows_eq, hsorted, hdivided, List.map_cons, List.map_singleton, hfirst, hsecond]

/-- A status bar takes no line, and neither does the line feed of a label. -/
theorem generate_lineCount_shortRows :
    build Settings.standard unitOptions = .ok unitGenerator ∧
      ∃ page, unitGenerator.generate shortRows none = .ok page ∧ page.lineCount = 54 := by
  obtain ⟨hexists, hcount, -⟩ := generate_lineCount build_unitOptions shortRows none
  obtain ⟨page, hpage⟩ := hexists.2 ⟨.inr ⟨rfl, rfl⟩, by decide +kernel⟩
  refine ⟨build_unitOptions, page, hpage, ?_⟩
  rw [hcount page hpage, rows_shortRows]
  decide +kernel

end Rows

end Generator

end Wireframe
