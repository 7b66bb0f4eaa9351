import Wireframe.Dart.Indent
import Wireframe.Proofs.Text.Parts

/-!
# Indentation as a walk

`indent` divides a text into lines and puts the lines together again. Here it is read as one walk
along the text that leaves every code point in its place and adds spaces where a line begins
(`indent_eq`). The first line is treated apart: what stands before it depends only on whether it
is blank, and the walk along the rest, `indentTail`, never looks back. No line is made, lost or
merged by it (`lines_indent`).

Hanging indentation indents what follows the first line feed (`hangingIndent_append`).
-/
namespace Wireframe

open Text (endsLine)

/-! ## Line ends -/

theorem CodePoint.not_isLineEnd_space : isLineEnd space = false := by decide

namespace Text

theorem isLineEnd_of_endsLine {c : Nat} {rest : Text} (h : endsLine c rest) :
    CodePoint.isLineEnd c = true := by
  rw [endsLine, Bool.and_eq_true] at h
  exact h.1

/-- Of what follows, only the next code point has a say in where a line ends. -/
theorem endsLine_congr (c : Nat) {rest rest' : Text} (h : rest.head? = rest'.head?) :
    endsLine c rest = endsLine c rest' := by
  rw [endsLine, endsLine, h]

end Text

namespace Dart

/-! ## The walk -/

/-- Whether the first line is blank, its end included. -/
def startsBlank : Text → Bool
  | [] => true
  | c :: rest => CodePoint.isBlank c && (endsLine c rest || startsBlank rest)

/-- What indentation puts before the first line. -/
def lead (levels : Nat) (t : Text) : Text := if startsBlank t then [] else indentation levels

/-- The text with every line but the first indented. -/
def indentTail (levels : Nat) : Text → Text
  | [] => []
  | c :: rest =>
    if endsLine c rest then c :: (lead levels rest ++ indentTail levels rest)
    else c :: indentTail levels rest

variable (levels : Nat)

theorem indentTail_cons_of_endsLine {c : Nat} {rest : Text} (h : endsLine c rest) :
    indentTail levels (c :: rest) = c :: (lead levels rest ++ indentTail levels rest) := by
  rw [indentTail, if_pos h]

theorem indentTail_cons_of_not_endsLine {c : Nat} {rest : Text} (h : ¬ endsLine c rest) :
    indentTail levels (c :: rest) = c :: indentTail levels rest := by
  rw [indentTail, if_neg h]

theorem indentTail_cons_of_not_isLineEnd {c : Nat} (h : CodePoint.isLineEnd c = false)
    (rest : Text) : indentTail levels (c :: rest) = c :: indentTail levels rest :=
  indentTail_cons_of_not_endsLine levels fun hends => by
    rw [Text.isLineEnd_of_endsLine hends] at h
    exact Bool.noConfusion h

/-- What is put before a line is made of spaces. -/
theorem lead_induction {P : Text → Prop} (hnil : P [])
    (hspace : ∀ spaces, P spaces → P (CodePoint.space :: spaces)) (t : Text) :
    P (lead levels t) := by
  unfold lead indentation
  split
  · exact hnil
  · induction 2 * levels with
    | zero => exact hnil
    | succ n ih => exact hspace _ ih

theorem mem_lead {c : Nat} {t : Text} (h : c ∈ lead levels t) : c = CodePoint.space := by
  unfold lead at h
  split at h
  · cases h
  · exact List.eq_of_mem_replicate h

theorem mem_indentTail {c : Nat} {t : Text} (h : c ∈ indentTail levels t) :
    c ∈ t ∨ c = CodePoint.space := by
  induction t with
  | nil => exact .inl h
  | cons a rest ih =>
    by_cases hends : endsLine a rest
    · rw [indentTail_cons_of_endsLine levels hends, List.mem_cons, List.mem_append] at h
      rcases h with rfl | h | h
      · exact .inl List.mem_cons_self
      · exact .inr (mem_lead levels h)
      · exact (ih h).imp_left (List.mem_cons_of_mem a)
    · rw [indentTail_cons_of_not_endsLine levels hends, List.mem_cons] at h
      rcases h with rfl | h
      · exact .inl List.mem_cons_self
      · exact (ih h).imp_left (List.mem_cons_of_mem a)

/-! ## Lines keep their places -/

theorem head?_indentTail (t : Text) : (indentTail levels t).head? = t.head? := by
  cases t with
  | nil => rfl
  | cons c rest =>
    rw [indentTail]
    split <;> rfl

/-- A line still ends where it did when the next one is indented. -/
theorem endsLine_indented {c : Nat} {rest : Text} (h : endsLine c rest) :
    endsLine c (lead levels rest ++ indentTail levels rest) = true := by
  have hhead := Text.endsLine_congr c (head?_indentTail levels rest)
  unfold lead
  split
  · rw [List.nil_append, hhead, h]
  · rw [indentation]
    cases 2 * levels with
    | zero => rw [List.replicate_zero, List.nil_append, hhead, h]
    | succ n =>
      have hline := Text.isLineEnd_of_endsLine h
      simp [endsLine, hline, List.replicate_succ, CodePoint.space, CodePoint.lineFeed]

theorem lines_cons_of_not_endsLine {c : Nat} {rest first : Text} {others : List Text}
    (h : ¬ endsLine c rest) (hlines : Text.lines rest = first :: others) :
    Text.lines (c :: rest) = (c :: first) :: others := by
  rw [Text.lines, if_neg h, hlines, Text.consHead]

/-- Spaces before a text belong to its first line. -/
theorem lines_lead_append (t : Text) {rest first : Text} {others : List Text}
    (h : Text.lines rest = first :: others) :
    Text.lines (lead levels t ++ rest) = (lead levels t ++ first) :: others := by
  refine lead_induction levels
    (P := fun spaces => Text.lines (spaces ++ rest) = (spaces ++ first) :: others)
    h (fun spaces ih => ?_) t
  have hends : ¬ endsLine CodePoint.space (spaces ++ rest) := fun hends => by
    have hline := Text.isLineEnd_of_endsLine hends
    rw [CodePoint.not_isLineEnd_space] at hline
    cases hline
  exact lines_cons_of_not_endsLine hends ih

theorem lead_append_eq_indentLine {t first : Text} (h : first.isBlank = startsBlank t) :
    lead levels t ++ first = indentLine levels first := by
  rw [lead, indentLine, h]
  split <;> rfl

/-- The walk leaves the lines of a text where they are and moves all but the first. -/
theorem lines_indentTail (c : Nat) (rest : Text) :
    ∃ first others, Text.lines (c :: rest) = first :: others ∧
      first.isBlank = startsBlank (c :: rest) ∧
      Text.lines (indentTail levels (c :: rest)) = first :: others.map (indentLine levels) := by
  induction rest generalizing c with
  | nil =>
    have hlines : Text.lines [c] = [[c]] := by
      rw [Text.lines]
      split <;> rfl
    have htail : indentTail levels [c] = [c] := by
      rw [indentTail]
      split <;> rfl
    refine ⟨[c], [], hlines, ?_, ?_⟩
    · simp [Text.isBlank, startsBlank]
    · rw [htail, hlines, List.map_nil]
  | cons a rest ih =>
    obtain ⟨first, others, hlines, hblank, htail⟩ := ih a
    by_cases hends : endsLine c (a :: rest)
    · refine ⟨[c], first :: others, ?_, ?_, ?_⟩
      · rw [Text.lines, if_pos hends, hlines]
      · rw [startsBlank, hends]
        simp [Text.isBlank]
      · rw [indentTail_cons_of_endsLine levels hends, Text.lines,
          if_pos (endsLine_indented levels hends), lines_lead_append levels _ htail,
          lead_append_eq_indentLine levels hblank, List.map_cons]
    · have hends' : ¬ endsLine c (indentTail levels (a :: rest)) := by
        rwa [Text.endsLine_congr c (head?_indentTail levels (a :: rest))]
      refine ⟨c :: first, others, lines_cons_of_not_endsLine hends hlines, ?_, ?_⟩
      · rw [startsBlank, ← hblank, Bool.eq_false_iff.2 hends]
        simp [Text.isBlank]
      · rw [indentTail_cons_of_not_endsLine levels hends]
        exact lines_cons_of_not_endsLine hends' htail

theorem indent_eq (t : Text) : indent levels t = lead levels t ++ indentTail levels t := by
  cases t with
  | nil => rfl
  | cons c rest =>
    obtain ⟨first, others, hlines, hblank, htail⟩ := lines_indentTail levels c rest
    have hflatten := Text.lines_flatten (indentTail levels (c :: rest))
    rw [htail, List.flatten_cons] at hflatten
    rw [indent, hlines, List.map_cons, List.flatten_cons, ← hflatten,
      ← lead_append_eq_indentLine levels hblank, List.append_assoc]

/-- The lines of an indented text are those of the text, moved to the right. -/
theorem lines_indent (t : Text) : (indent levels t).lines = t.lines.map (indentLine levels) := by
  cases t with
  | nil => rfl
  | cons c rest =>
    obtain ⟨first, others, hlines, hblank, htail⟩ := lines_indentTail levels c rest
    rw [indent_eq, lines_lead_append levels _ htail, lead_append_eq_indentLine levels hblank,
      hlines, List.map_cons]

theorem mem_indent {c : Nat} {t : Text} (h : c ∈ indent levels t) :
    c ∈ t ∨ c = CodePoint.space := by
  rw [indent_eq, List.mem_append] at h
  rcases h with h | h
  · exact .inr (mem_lead levels h)
  · exact mem_indentTail levels h

/-! ## Indentation composes -/

theorem startsBlank_space_cons (t : Text) :
    startsBlank (CodePoint.space :: t) = startsBlank t := by
  have hblank : CodePoint.isBlank CodePoint.space = true := by decide
  have hends : endsLine CodePoint.space t = false := by
    rw [endsLine, CodePoint.not_isLineEnd_space, Bool.false_and]
  rw [startsBlank, hblank, hends, Bool.true_and, Bool.false_or]

theorem startsBlank_lead_append (t rest : Text) :
    startsBlank (lead levels t ++ rest) = startsBlank rest := by
  refine lead_induction levels (P := fun spaces => startsBlank (spaces ++ rest) = startsBlank rest)
    rfl (fun spaces ih => ?_) t
  rw [List.cons_append, startsBlank_space_cons, ih]

theorem indentTail_lead_append (levels' : Nat) (t rest : Text) :
    indentTail levels (lead levels' t ++ rest) = lead levels' t ++ indentTail levels rest := by
  refine lead_induction levels'
    (P := fun spaces => indentTail levels (spaces ++ rest) = spaces ++ indentTail levels rest)
    rfl (fun spaces ih => ?_) t
  rw [List.cons_append, indentTail_cons_of_not_isLineEnd levels CodePoint.not_isLineEnd_space, ih,
    List.cons_append]

theorem startsBlank_indentTail (t : Text) : startsBlank (indentTail levels t) = startsBlank t := by
  induction t with
  | nil => rfl
  | cons c rest ih =>
    by_cases hends : endsLine c rest
    · rw [indentTail_cons_of_endsLine levels hends, startsBlank, startsBlank, hends,
        endsLine_indented levels hends, Bool.true_or, Bool.true_or]
    · rw [indentTail_cons_of_not_endsLine levels hends, startsBlank, startsBlank, ih,
        Text.endsLine_congr c (head?_indentTail levels rest)]

theorem lead_append_lead (levels' : Nat) (t : Text) :
    lead levels' t ++ lead levels t = lead (levels + levels') t := by
  unfold lead
  split
  · rfl
  · rw [indentation, indentation, indentation, List.replicate_append_replicate]
    congr 1
    omega

theorem indentTail_indentTail (levels' : Nat) (t : Text) :
    indentTail levels (indentTail levels' t) = indentTail (levels + levels') t := by
  induction t with
  | nil => rfl
  | cons c rest ih =>
    by_cases hends : endsLine c rest
    · have hlead : lead levels (lead levels' rest ++ indentTail levels' rest) =
          lead levels rest := by
        rw [lead, startsBlank_lead_append, startsBlank_indentTail, lead]
      -- The second lead comes before the first one: both are spaces.
      have hcomm : lead levels rest ++ lead levels' rest = lead (levels + levels') rest := by
        rw [lead_append_lead, Nat.add_comm]
      rw [indentTail_cons_of_endsLine levels' hends,
        indentTail_cons_of_endsLine levels (endsLine_indented levels' hends),
        indentTail_cons_of_endsLine (levels + levels') hends, hlead, indentTail_lead_append, ih,
        ← List.append_assoc, hcomm]
    · have hends' : ¬ endsLine c (indentTail levels' rest) := by
        rwa [Text.endsLine_congr c (head?_indentTail levels' rest)]
      rw [indentTail_cons_of_not_endsLine levels' hends,
        indentTail_cons_of_not_endsLine levels hends',
        indentTail_cons_of_not_endsLine (levels + levels') hends, ih]

/-! ## Hanging indentation -/

theorem hangingIndent_of_not_mem {t : Text} (h : CodePoint.lineFeed ∉ t) :
    hangingIndent levels t = t := by
  rw [hangingIndent, Text.cut_of_not_mem h]

theorem hangingIndent_append {first rest : Text} (h : CodePoint.lineFeed ∉ first)
    (hrest : rest ≠ []) :
    hangingIndent levels (first ++ CodePoint.lineFeed :: rest) =
      first ++ CodePoint.lineFeed :: indent levels rest := by
  obtain ⟨c, rest, rfl⟩ := List.exists_cons_of_ne_nil hrest
  rw [hangingIndent, Text.cut_append h]
  simp [Text.concat, Text.ofString, CodePoint.lineFeed]

/-- A line break at the end goes. -/
theorem hangingIndent_append_lineFeed {first : Text} (h : CodePoint.lineFeed ∉ first) :
    hangingIndent levels (first ++ [CodePoint.lineFeed]) = first := by
  rw [hangingIndent, Text.cut_append h]

end Dart

end Wireframe
