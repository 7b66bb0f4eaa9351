import Mathlib.Data.List.Chain
import Wireframe.Proofs.Text.Parts

/-!
# Passages

Blank lines divide a text into passages. Texts that were joined by blank lines are its passages
again, if none of them has a blank line in it or makes one with the line feed behind it
(`passages_join`). What is made of lines that are not empty is such a text (`isPassage_join`).
-/
namespace Wireframe

namespace Text

open CodePoint (lineFeed)

/-- The parts between blank lines; there is one more than there are such lines. Of more than two
line feeds in a row the first two count. -/
def passages : Text → List Text
  | [] => [[]]
  | [c] => [[c]]
  | c :: d :: rest =>
    if c = lineFeed ∧ d = lineFeed then [] :: passages rest else consHead c (passages (d :: rest))

/-- With a line feed behind it the text has no blank line. -/
def IsPassage (t : Text) : Prop :=
  (t ++ [lineFeed]).IsChain fun c d => ¬(c = lineFeed ∧ d = lineFeed)

/-- Before a line feed no code point counts. -/
theorem isChain_append_of_not_mem {line : Text} (h : lineFeed ∉ line) (rest : Text) :
    (line ++ rest).IsChain (fun c d => ¬(c = lineFeed ∧ d = lineFeed)) ↔
      rest.IsChain fun c d => ¬(c = lineFeed ∧ d = lineFeed) := by
  induction line with
  | nil => rfl
  | cons c line ih =>
    rw [List.mem_cons, not_or] at h
    rw [List.cons_append, List.isChain_cons, ih h.2]
    exact ⟨And.right, fun hrest => ⟨fun _ _ hboth => h.1 hboth.1.symm, hrest⟩⟩

namespace IsPassage

theorem tail {c : Nat} {rest : Text} (h : IsPassage (c :: rest)) : IsPassage rest :=
  List.IsChain.tail h

theorem of_not_mem {line : Text} (h : lineFeed ∉ line) : IsPassage line :=
  (isChain_append_of_not_mem h [lineFeed]).2 (List.isChain_singleton lineFeed)

/-- A line and its end before a passage that begins with something else. -/
theorem line_append {line : Text} (hline : lineFeed ∉ line) {c : Nat} (hc : c ≠ lineFeed)
    {rest : Text} (hrest : IsPassage (c :: rest)) :
    IsPassage (line ++ lineFeed :: c :: rest) := by
  rw [IsPassage, List.append_assoc, isChain_append_of_not_mem hline, List.cons_append,
    List.cons_append, List.isChain_cons_cons]
  exact ⟨fun hboth => hc hboth.2, hrest⟩

end IsPassage

/-- Lines that are not empty make no blank line. -/
theorem isPassage_join {lines : List Text} (h : ∀ line ∈ lines, line ≠ [] ∧ lineFeed ∉ line) :
    IsPassage (join "\n" lines) := by
  induction lines with
  | nil => exact .of_not_mem List.not_mem_nil
  | cons line lines ih =>
    obtain ⟨⟨-, hline⟩, hlines⟩ := List.forall_mem_cons.1 h
    cases lines with
    | nil => exact .of_not_mem hline
    | cons next lines =>
      obtain ⟨⟨hne, hnext⟩, -⟩ := List.forall_mem_cons.1 hlines
      obtain ⟨c, next, rfl⟩ := List.exists_cons_of_ne_nil hne
      have hc : c ≠ lineFeed := fun heq => hnext (heq ▸ List.mem_cons_self)
      have hfirst : ∃ rest, join "\n" ((c :: next) :: lines) = c :: rest := by
        cases lines with
        | nil => exact ⟨next, rfl⟩
        | cons => exact ⟨_, by rw [join_cons_cons, List.cons_append]⟩
      obtain ⟨rest, hrest⟩ := hfirst
      have hpassage := ih hlines
      rw [hrest] at hpassage
      rw [join_cons_cons, hrest]
      exact .line_append hline hc hpassage

section Passages

variable {t : Text} (h : IsPassage t)

include h

theorem passages_append (rest : Text) :
    passages (t ++ lineFeed :: lineFeed :: rest) = t :: passages rest := by
  induction t with
  | nil => rw [List.nil_append, passages, if_pos ⟨rfl, rfl⟩]
  | cons c t ih =>
    -- What stands behind the first code point is not a second line feed.
    cases t with
    | nil =>
      have hc : ¬(c = lineFeed ∧ lineFeed = lineFeed) := (List.isChain_cons_cons.1 h).1
      have hrest := ih h.tail
      rw [List.nil_append] at hrest
      rw [List.cons_append, List.nil_append, passages, if_neg hc, hrest, consHead]
    | cons d t =>
      have hc : ¬(c = lineFeed ∧ d = lineFeed) := (List.isChain_cons_cons.1 h).1
      have hrest := ih h.tail
      rw [List.cons_append] at hrest
      rw [List.cons_append, List.cons_append, passages, if_neg hc, hrest, consHead]

theorem passages_eq_singleton : passages t = [t] := by
  induction t with
  | nil => rfl
  | cons c t ih =>
    cases t with
    | nil => rfl
    | cons d t =>
      have hc : ¬(c = lineFeed ∧ d = lineFeed) := (List.isChain_cons_cons.1 h).1
      rw [passages, if_neg hc, ih h.tail, consHead]

end Passages

theorem passages_join {ts : List Text} (hne : ts ≠ []) (h : ∀ t ∈ ts, IsPassage t) :
    passages (join "\n\n" ts) = ts := by
  induction ts with
  | nil => exact absurd rfl hne
  | cons t ts ih =>
    obtain ⟨ht, hts⟩ := List.forall_mem_cons.1 h
    cases ts with
    | nil => exact passages_eq_singleton ht
    | cons t' ts =>
      have hsplit := passages_append ht (join "\n\n" (t' :: ts))
      rw [ih (List.cons_ne_nil t' ts) hts] at hsplit
      rw [join_cons_cons]
      exact hsplit

theorem join_prefix_join_append (separator : Text) (ts ts' : List Text) :
    join separator ts <+: join separator (ts ++ ts') := by
  cases ts with
  | nil => exact List.nil_prefix
  | cons t ts =>
    cases ts' with
    | nil => simp
    | cons t' ts' =>
      rw [join_append separator (List.cons_ne_nil t ts) (List.cons_ne_nil t' ts')]
      exact List.prefix_append _ _

end Text

end Wireframe
