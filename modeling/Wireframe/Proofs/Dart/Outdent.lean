import Wireframe.Proofs.Dart.Indentation

/-!
# Indentation composes and can be undone

The lines of an indented text are the lines of the text, each moved to the right, and a line that is
not blank does not become blank by it. So what holds of one line holds of a text: levels add up, and
the text comes back when every line is moved to the left again (`indent_composes`).
-/
namespace Wireframe

namespace Dart

variable (levels : Nat)

/-! ## Single lines -/

theorem isBlank_indentation_append (line : Text) :
    Text.isBlank (indentation levels ++ line) = line.isBlank := by
  have hspaces : (indentation levels).all CodePoint.isBlank = true := by
    rw [List.all_eq_true]
    intro c hc
    rw [List.eq_of_mem_replicate hc]
    decide
  rw [Text.isBlank, List.all_append, hspaces, Bool.true_and, Text.isBlank]

theorem isBlank_indentLine (line : Text) : (indentLine levels line).isBlank = line.isBlank := by
  unfold indentLine
  split
  · rfl
  · exact isBlank_indentation_append levels line

/-- Further levels put their spaces before those that are there. -/
theorem indentLine_indentLine (levels' : Nat) (line : Text) :
    indentLine levels' (indentLine levels line) = indentLine (levels + levels') line := by
  by_cases hblank : line.isBlank = true
  · rw [indentLine, isBlank_indentLine, if_pos hblank, indentLine, if_pos hblank, indentLine,
      if_pos hblank]
  · have hspaces : indentation levels' ++ indentation levels = indentation (levels + levels') := by
      rw [indentation, indentation, indentation, List.replicate_append_replicate]
      congr 1
      omega
    rw [indentLine, isBlank_indentLine, if_neg hblank, indentLine, if_neg hblank, indentLine,
      if_neg hblank, ← List.append_assoc, hspaces]

/-- A line moved to the left, unless it is blank. -/
def outdentLine (line : Text) : Text :=
  if line.isBlank then line else line.drop (2 * levels)

theorem outdentLine_indentLine (line : Text) :
    outdentLine levels (indentLine levels line) = line := by
  rw [outdentLine, isBlank_indentLine, indentLine]
  split
  · rfl
  · exact List.drop_left' List.length_replicate

theorem indentation_prefix_indentLine {line : Text} (h : (indentLine levels line).isBlank = false) :
    indentation levels <+: indentLine levels line := by
  rw [isBlank_indentLine] at h
  rw [indentLine, h, if_neg Bool.false_ne_true]
  exact List.prefix_append _ _

/-! ## Texts -/

/-- The source moved `levels` levels to the left. -/
def outdent (code : Text) : Text := (code.lines.map (outdentLine levels)).flatten

/-- **Indentation composes and can be undone.** Levels add up. Indented source has as many lines as
before; those that are not blank begin with the spaces of the levels, and without these they are
the lines of the source. -/
theorem indent_composes (more : Nat) (code : Text) :
    indent more (indent levels code) = indent (levels + more) code ∧
      (indent levels code).lines.length = code.lines.length ∧
      (∀ line ∈ (indent levels code).lines, line.isBlank = false →
        indentation levels <+: line) ∧
      outdent levels (indent levels code) = code := by
  refine ⟨?_, ?_, ?_, ?_⟩
  · have hlines (line : Text) : indentLine more (indentLine levels line) =
        indentLine (levels + more) line := indentLine_indentLine levels more line
    rw [indent, lines_indent, List.map_map, indent]
    congr 1
    exact List.map_congr_left fun line _ => hlines line
  · rw [lines_indent, List.length_map]
  · intro line hline hblank
    rw [lines_indent] at hline
    obtain ⟨before, -, rfl⟩ := List.mem_map.1 hline
    exact indentation_prefix_indentLine levels hblank
  · have hlines : (code.lines.map (indentLine levels)).map (outdentLine levels) = code.lines := by
      rw [List.map_map]
      exact List.map_id'' (outdentLine_indentLine levels) _
    rw [outdent, lines_indent, hlines, Text.lines_flatten]

/-- A pair that ends one line, a blank line and a last line without an end. -/
example : indent 1 [0x61, 0x0D, 0x0A, 0x20, 0x0B, 0x62] =
    [0x20, 0x20, 0x61, 0x0D, 0x0A, 0x20, 0x0B, 0x20, 0x20, 0x62] := by
  decide

end Dart

end Wireframe
