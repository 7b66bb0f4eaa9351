import Wireframe.Proofs.Dart.Indentation
import Wireframe.Proofs.Layout.Source
import Wireframe.Proofs.Text.LineCount

/-!
# Lines of rows and columns

Indentation makes no lines. A part of a row has two lines more than its source, a row and a column
of parts have five lines of their own, and an empty column has four.
-/
namespace Wireframe

open CodePoint (lineFeed)

namespace Dart

/-! ## Indentation -/

variable (levels : Nat)

theorem count_indentLine (line : Text) :
    (indentLine levels line).count lineFeed = line.count lineFeed := by
  unfold indentLine
  split
  · rfl
  · have hspaces : lineFeed ∉ indentation levels := fun h =>
      absurd (List.eq_of_mem_replicate h) (by decide)
    rw [List.count_append, List.count_eq_zero_of_not_mem hspaces, Nat.zero_add]

theorem lineCount_indent (code : Text) : (indent levels code).lineCount = code.lineCount := by
  have hcount : List.count lineFeed ∘ indentLine levels = List.count lineFeed :=
    funext (count_indentLine levels)
  rw [Text.lineCount, indent, List.count_flatten, List.map_map, hcount, ← List.count_flatten,
    Text.lines_flatten, Text.lineCount]

/-- The comma of an entry stands on its last line. -/
theorem lineCount_listEntries {items : List Text} (h : items ≠ []) :
    (listEntries levels items).lineCount = (items.map Text.lineCount).sum := by
  have hcomma : lineFeed ∉ Text.ofString "," := by decide
  have hentry (item : Text) :
      Text.lineCount (.concat [indent levels item, Text.ofString ","]) = item.lineCount := by
    rw [Text.concat, List.flatten_cons, List.flatten_cons, List.flatten_nil, List.append_nil,
      Text.lineCount_append_of_not_mem _ hcomma, lineCount_indent]
  rw [listEntries, Text.lineCount_join (mt List.map_eq_nil_iff.1 h), List.map_map]
  congr 1
  exact List.map_congr_left fun item _ => hentry item

/-- Only a line feed at the very end would be lost. -/
theorem lineCount_hangingIndent {code : Text} (h : code.getLast? ≠ some lineFeed) :
    (hangingIndent levels code).lineCount = code.lineCount := by
  rcases Text.cut_eq lineFeed code with ⟨hmem, -⟩ | ⟨first, rest, hfirst, rfl, -⟩
  · rw [hangingIndent_of_not_mem levels hmem]
  · have hrest : rest ≠ [] := by
      rintro rfl
      exact h List.getLast?_concat
    have hlines (rest : Text) : Text.lineCount (first ++ lineFeed :: rest) =
        Text.lineCount first + rest.lineCount := Text.lineCount_append_lineFeed first rest
    rw [hangingIndent_append levels hfirst hrest, hlines, hlines, lineCount_indent]

end Dart

namespace Layout

open Dart

/-! ## Rows and columns -/

theorem lineCount_between (opening closing code : Text) :
    Text.lineCount (opening ++ (code ++ closing)) =
      code.lineCount + (opening.count lineFeed + closing.count lineFeed) := by
  rw [Text.lineCount, Text.lineCount, List.count_append, List.count_append]
  omega

theorem lineCount_expandedPart (code : Text) :
    (expandedPart code).lineCount = code.lineCount + 2 := by
  have hopening : expandedOpening.count lineFeed = 1 :=
    Text.of_chars (P := fun t => t.count lineFeed = 1) (by decide)
  have hchild : childOpening.count lineFeed = 0 :=
    Text.of_chars (P := fun t => t.count lineFeed = 0) (by decide)
  have hclosing : expandedClosing.count lineFeed = 1 :=
    Text.of_chars (P := fun t => t.count lineFeed = 1) (by decide)
  rw [expandedPart_eq, lineCount_between, lineCount_indent, lineCount_between, hopening, hchild,
    hclosing]
  rfl

theorem count_listClosing : listClosing.count lineFeed = 2 :=
  Text.of_chars (P := fun t => t.count lineFeed = 2) (by decide)

theorem lineCount_rowSource {parts : List Text} (h : parts ≠ []) :
    (rowSource parts).lineCount = 5 + (parts.map fun part => part.lineCount + 2).sum := by
  have hopening : rowOpening.count lineFeed = 3 :=
    Text.of_chars (P := fun t => t.count lineFeed = 3) (by decide)
  have hparts : Text.lineCount ∘ expandedPart = fun part => part.lineCount + 2 :=
    funext lineCount_expandedPart
  rw [rowSource_eq h, lineCount_between, lineCount_listEntries 2 (mt List.map_eq_nil_iff.1 h),
    List.map_map, hparts, hopening, count_listClosing, Nat.add_comm]

theorem lineFeed_not_mem_spacer (gap : Int) : lineFeed ∉ spacer gap := by
  have hopening : lineFeed ∉ spacerOpening :=
    Text.of_chars (P := fun t => lineFeed ∉ t) (by decide)
  have hclosing : lineFeed ∉ spacerClosing :=
    Text.of_chars (P := fun t => lineFeed ∉ t) (by decide)
  have hgap : lineFeed ∉ Text.ofInt gap := fun h => by
    rcases mem_ofInt h with h | h <;> revert h <;> decide
  rw [spacer_eq, List.mem_append, List.mem_append]
  exact fun h => h.elim hopening fun h => h.elim hgap hclosing

theorem spaced_true (gapText : Text) (parts : List Text) :
    spaced gapText true parts = parts.flatMap fun part => [part, gapText] := by
  induction parts with
  | nil => rfl
  | cons part rest ih =>
    cases rest with
    | nil => rfl
    | cons next rest =>
      rw [List.flatMap_cons, ← ih]
      rfl

/-- A spacer takes one line. -/
theorem sum_lineCount_spaced (gap : Int) (parts : List Text) :
    ((spaced (spacer gap) true parts).map Text.lineCount).sum =
      (parts.map fun part => 1 + part.lineCount).sum := by
  have hspacer := Text.lineCount_of_not_mem (lineFeed_not_mem_spacer gap)
  rw [spaced_true]
  induction parts with
  | nil => rfl
  | cons part rest ih =>
    simp only [List.flatMap_cons, List.map_append, List.sum_append, List.map_cons, List.map_nil,
      List.sum_cons, List.sum_nil, hspacer, ih]
    omega

theorem count_columnOpening : columnOpening.count lineFeed = 2 :=
  Text.of_chars (P := fun t => t.count lineFeed = 2) (by decide)

theorem lineCount_emptyColumn (gap : Int) (trailingGap : Bool) :
    (columnSource gap trailingGap []).lineCount = 4 := by
  have hclosing : columnClosing.count lineFeed = 1 :=
    Text.of_chars (P := fun t => t.count lineFeed = 1) (by decide)
  rw [columnSource_nil, Text.lineCount, List.count_append, count_columnOpening, hclosing]

/-- Every part of a column has a spacer on a line behind it. -/
theorem lineCount_columnSource (gap : Int) {parts : List Text} (h : parts ≠ []) :
    (columnSource gap true parts).lineCount =
      5 + (parts.map fun part => 1 + part.lineCount).sum := by
  have hopening : (columnOpening ++ "\n").count lineFeed = 3 := by
    rw [List.count_append, count_columnOpening]
    rfl
  have hne : spaced (spacer gap) true parts ≠ [] := by
    obtain ⟨part, rest, rfl⟩ := List.exists_cons_of_ne_nil h
    rw [spaced_true]
    exact List.cons_ne_nil _ _
  rw [columnSource_eq gap true h, lineCount_between, lineCount_listEntries 2 hne,
    sum_lineCount_spaced, hopening, count_listClosing, Nat.add_comm]

end Layout

end Wireframe
