import Wireframe.Text.Basic

/-!
# Parts of texts

How texts are put together by `concat` and `join`, how `splitOn` and `cut` take one apart, and what
it means that one stands in another (`occursIn_iff`).
-/
namespace Wireframe

namespace Text

/-- What holds of the characters of a string holds of its text. Evaluation of characters is fast,
that of a string is not. -/
theorem of_chars {P : Text → Prop} {chars : List Char} (h : P (chars.map Char.toNat)) :
    P (ofString (String.ofList chars)) := by
  rw [ofString, String.toList_ofList]
  exact h

theorem concat_cons (t : Text) (ts : List Text) : concat (t :: ts) = t ++ concat ts := rfl

theorem join_cons_cons (separator t t' : Text) (ts : List Text) :
    join separator (t :: t' :: ts) = t ++ (separator ++ join separator (t' :: ts)) := by
  rw [join, List.append_assoc]
  exact fun h => List.cons_ne_nil t' ts h

theorem join_append (separator : Text) {ts ts' : List Text} (h : ts ≠ []) (h' : ts' ≠ []) :
    join separator (ts ++ ts') = join separator ts ++ (separator ++ join separator ts') := by
  induction ts with
  | nil => exact absurd rfl h
  | cons t ts ih =>
    cases ts with
    | nil =>
      obtain ⟨t', rest, rfl⟩ := List.exists_cons_of_ne_nil h'
      exact join_cons_cons separator t t' rest
    | cons next ts =>
      rw [List.cons_append, List.cons_append, join_cons_cons, join_cons_cons, ← List.cons_append,
        ih (List.cons_ne_nil next ts), List.append_assoc, List.append_assoc]

theorem splitOn_eq_splitOnP (separator : Nat) (t : Text) :
    splitOn separator t = t.splitOnP (· = separator) := by
  induction t with
  | nil => rfl
  | cons c rest ih =>
    obtain ⟨first, others, hfirst⟩ := List.exists_cons_of_ne_nil (splitOn_ne_nil separator rest)
    rw [splitOn, List.splitOnP_cons_eq_if_modifyHead, ← ih, hfirst]
    by_cases hc : c = separator
    · rw [if_pos hc, if_pos (decide_eq_true hc)]
    · rw [if_neg hc, if_neg (mt of_decide_eq_true hc)]
      rfl

/-- A text has no separator and is not cut, or it is cut at the first one. -/
theorem cut_eq (separator : Nat) (t : Text) :
    (separator ∉ t ∧ t.cut separator = (t, none)) ∨
      ∃ first rest, separator ∉ first ∧ t = first ++ separator :: rest ∧
        t.cut separator = (first, some rest) := by
  induction t with
  | nil => exact .inl ⟨List.not_mem_nil, rfl⟩
  | cons c rest ih =>
    by_cases hc : c = separator
    · refine .inr ⟨[], rest, List.not_mem_nil, ?_, ?_⟩
      · rw [hc, List.nil_append]
      · rw [cut, if_pos hc]
    · have hcons {first : Text} (h : separator ∉ first) : separator ∉ c :: first := fun hmem =>
        (List.mem_cons.1 hmem).elim (fun heq => hc heq.symm) h
      rcases ih with ⟨hmem, hcut⟩ | ⟨first, after, hmem, hrest, hcut⟩
      · refine .inl ⟨hcons hmem, ?_⟩
        rw [cut, if_neg hc, hcut]
      · refine .inr ⟨c :: first, after, hcons hmem, ?_, ?_⟩
        · rw [hrest, List.cons_append]
        · rw [cut, if_neg hc, hcut]

theorem cut_append {separator : Nat} {first : Text} (h : separator ∉ first) (rest : Text) :
    cut separator (first ++ separator :: rest) = (first, some rest) := by
  induction first with
  | nil => rw [List.nil_append, cut, if_pos rfl]
  | cons c first ih =>
    have hc : c ≠ separator := fun heq => h (List.mem_cons.2 (.inl heq.symm))
    have hfirst : separator ∉ first := fun hmem => h (List.mem_cons_of_mem c hmem)
    rw [List.cons_append, cut, if_neg hc, ih hfirst]

theorem cut_of_not_mem {separator : Nat} {t : Text} (h : separator ∉ t) :
    cut separator t = (t, none) := by
  rcases cut_eq separator t with ⟨-, hcut⟩ | ⟨first, rest, -, rfl, -⟩
  · exact hcut
  · exact absurd (List.mem_append_right first List.mem_cons_self) h

/-- A text stands in another one where it is a run of its code points. -/
theorem occursIn_iff {part t : Text} : part.occursIn t = true ↔ part <:+: t := by
  induction t with
  | nil => rw [occursIn, List.isEmpty_iff, List.infix_nil]
  | cons c rest ih =>
    rw [occursIn, Bool.or_eq_true, ih, List.isPrefixOf_iff_prefix, List.infix_cons_iff]

end Text

end Wireframe
