import Mathlib.Algebra.GroupWithZero.Nat
import Wireframe.Proofs.Text.Parts
import Wireframe.Text.Lines

/-!
# Counting lines

Texts that are put one below the other have their lines together (`lineCount_join`). A text that
follows on the last line of another one brings one line less.
-/
namespace Wireframe

namespace Text

open CodePoint (lineFeed)

theorem lineCount_of_not_mem {t : Text} (h : lineFeed ∉ t) : t.lineCount = 1 := by
  rw [lineCount, List.count_eq_zero_of_not_mem h]

/-- The last line of the first text is the first line of the second one. -/
theorem lineCount_append (t t' : Text) : (t ++ t').lineCount + 1 = t.lineCount + t'.lineCount := by
  rw [lineCount, lineCount, lineCount, List.count_append]
  omega

theorem lineCount_append_of_not_mem (t : Text) {t' : Text} (h : lineFeed ∉ t') :
    (t ++ t').lineCount = t.lineCount := by
  have happend := lineCount_append t t'
  rw [lineCount_of_not_mem h] at happend
  exact Nat.add_right_cancel happend

theorem lineCount_append_lineFeed (t t' : Text) :
    (t ++ (ofString "\n" ++ t')).lineCount = t.lineCount + t'.lineCount := by
  have hfeed : ofString "\n" ++ t' = lineFeed :: t' := rfl
  have hcount : lineCount (lineFeed :: t') = t'.lineCount + 1 := by
    rw [lineCount, List.count_cons_self, lineCount]
  have happend := lineCount_append t (lineFeed :: t')
  rw [hcount, ← Nat.add_assoc] at happend
  rw [hfeed]
  exact Nat.add_right_cancel happend

theorem lineCount_join {ts : List Text} (h : ts ≠ []) :
    (join "\n" ts).lineCount = (ts.map lineCount).sum := by
  induction ts with
  | nil => exact absurd rfl h
  | cons t ts ih =>
    cases ts with
    | nil => rw [join, List.map_singleton, List.sum_singleton]
    | cons t' ts =>
      rw [join_cons_cons, lineCount_append_lineFeed, ih (List.cons_ne_nil t' ts),
        List.map_cons (a := t), List.sum_cons (a := t.lineCount)]

end Text

end Wireframe
