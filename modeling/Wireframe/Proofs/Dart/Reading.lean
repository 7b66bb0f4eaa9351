import Wireframe.Dart.Literal
import Wireframe.Proofs.Dart.Indentation

/-!
# Reading source

Source is read from left to right. A quote opens a literal, the next quote closes it, and inside
of it a backslash takes the meaning from the code point after it. `skeleton` is the source without
the contents of its literals.

A reader goes through concatenated texts one after the other (`read_append`), and indentation is
nothing to it (`read_indentTail`): what indentation adds to a text it adds to the skeleton in the
same place (`skeletonFrom_indentTail`), or it goes with the content of a literal.
-/
namespace Wireframe

namespace Dart

open DartLiteral (quote backslash dollar)

/-! ## Modes -/

/-- Where a reader of source stands. -/
inductive Mode where
  | code
  | literal
  /-- In a literal, after a backslash. -/
  | escaped
  deriving DecidableEq

namespace Mode

def next : Mode → Nat → Mode
  | code, c => if c = quote then literal else code
  | literal, c => if c = quote then code else if c = backslash then escaped else literal
  | escaped, _ => literal

/-- What a literal may not hold: a line break, and a dollar sign that is not escaped. -/
def refuses : Mode → Nat → Bool
  | code, _ => false
  | literal, c => c = CodePoint.lineFeed || c = CodePoint.carriageReturn || c = dollar
  | escaped, c => c = CodePoint.lineFeed || c = CodePoint.carriageReturn

def step? (m : Mode) (c : Nat) : Option Mode := if m.refuses c then none else some (m.next c)

/-- Where a reader stands after a text; `none` where the text cannot be read. -/
def read (m : Mode) (t : Text) : Option Mode := t.foldlM step? m

theorem read_cons (m : Mode) (c : Nat) (t : Text) :
    m.read (c :: t) = if m.refuses c then none else (m.next c).read t := by
  rw [read, List.foldlM_cons, step?]
  split <;> rfl

theorem read_cons_eq_some {m m' : Mode} {c : Nat} {t : Text} :
    m.read (c :: t) = some m' ↔ m.refuses c = false ∧ (m.next c).read t = some m' := by
  rw [read_cons]
  cases m.refuses c <;> simp

theorem eq_of_read_nil {m m' : Mode} (h : m.read [] = some m') : m = m' := Option.some.inj h

theorem read_append (m : Mode) (a b : Text) :
    m.read (a ++ b) = (m.read a).bind fun m' => m'.read b := List.foldlM_append

/-- No line ends with a code point that says how to go on. -/
theorem next_of_isLineEnd {m : Mode} {c : Nat} (h : CodePoint.isLineEnd c) :
    m.next c = if m = code then code else literal := by
  have hquote : c ≠ quote := by rintro rfl; exact absurd h (by decide)
  have hbackslash : c ≠ backslash := by rintro rfl; exact absurd h (by decide)
  cases m <;> simp [next, hquote, hbackslash]

theorem next_code {c : Nat} (h : c ≠ quote) : code.next c = code := if_neg h

/-- Only a quote closes a literal. -/
theorem eq_quote_of_next_eq_code {m : Mode} {c : Nat} (hm : m ≠ code) (h : m.next c = code) :
    m = literal ∧ c = quote := by
  cases m with
  | code => exact absurd rfl hm
  | literal =>
    by_cases hc : c = quote
    · exact ⟨rfl, hc⟩
    · rw [next, if_neg hc] at h
      split at h <;> cases h
  | escaped => cases h

theorem next_space {m : Mode} (h : m ≠ escaped) : m.next CodePoint.space = m := by
  cases m with
  | code => rfl
  | literal => rfl
  | escaped => exact absurd rfl h

theorem read_lead_append {m : Mode} (h : m ≠ escaped) (levels : Nat) (line t : Text) :
    m.read (lead levels line ++ t) = m.read t := by
  have hrefuses : m.refuses CodePoint.space = false := by cases m <;> rfl
  refine lead_induction levels (P := fun spaces => m.read (spaces ++ t) = m.read t)
    rfl (fun spaces ih => ?_) line
  rw [List.cons_append, read_cons, hrefuses, if_neg Bool.false_ne_true, next_space h, ih]

/-- Indentation changes nothing for a reader. -/
theorem read_indentTail (m : Mode) (levels : Nat) (t : Text) :
    m.read (indentTail levels t) = m.read t := by
  induction t generalizing m with
  | nil => rfl
  | cons c rest ih =>
    by_cases hends : Text.endsLine c rest
    · have hnext : m.next c ≠ escaped := by
        rw [next_of_isLineEnd (Text.isLineEnd_of_endsLine hends)]
        split <;> decide
      rw [indentTail_cons_of_endsLine levels hends, read_cons, read_cons,
        read_lead_append hnext, ih]
    · rw [indentTail_cons_of_not_endsLine levels hends, read_cons, read_cons, ih]

end Mode

/-! ## Skeletons -/

/-- What is left of a text without the contents of literals. -/
def skeletonFrom : Mode → Text → Text
  | _, [] => []
  | m, c :: rest =>
    if m = .code ∨ m.next c = .code then c :: skeletonFrom (m.next c) rest
    else skeletonFrom (m.next c) rest

def skeleton (t : Text) : Text := skeletonFrom .code t

theorem skeletonFrom_cons_of_code (c : Nat) (rest : Text) :
    skeletonFrom .code (c :: rest) = c :: skeletonFrom (Mode.code.next c) rest := by
  rw [skeletonFrom, if_pos (.inl rfl)]

theorem skeletonFrom_cons_of_inside {m : Mode} {c : Nat} (hm : m ≠ .code) (h : m.next c ≠ .code)
    (rest : Text) : skeletonFrom m (c :: rest) = skeletonFrom (m.next c) rest := by
  rw [skeletonFrom, if_neg (not_or.2 ⟨hm, h⟩)]

theorem skeletonFrom_append {m m' : Mode} {a : Text} (h : m.read a = some m') (b : Text) :
    skeletonFrom m (a ++ b) = skeletonFrom m a ++ skeletonFrom m' b := by
  induction a generalizing m with
  | nil =>
    rw [Mode.eq_of_read_nil h]
    rfl
  | cons c rest ih =>
    rw [List.cons_append, skeletonFrom, skeletonFrom, ih (Mode.read_cons_eq_some.1 h).2]
    split <;> rfl

theorem mem_of_mem_skeletonFrom {m : Mode} {t : Text} {c : Nat} (h : c ∈ skeletonFrom m t) :
    c ∈ t := by
  induction t generalizing m with
  | nil => exact h
  | cons a rest ih =>
    rw [skeletonFrom] at h
    split at h
    · rcases List.mem_cons.1 h with rfl | h
      · exact List.mem_cons_self
      · exact List.mem_cons_of_mem a (ih h)
    · exact List.mem_cons_of_mem a (ih h)

theorem head?_skeleton (t : Text) : (skeleton t).head? = t.head? := by
  cases t with
  | nil => rfl
  | cons c rest => rw [skeleton, skeletonFrom_cons_of_code]; rfl

theorem skeleton_eq_nil_iff {t : Text} : skeleton t = [] ↔ t = [] := by
  rw [← List.head?_eq_none_iff, head?_skeleton, List.head?_eq_none_iff]

theorem not_isBlank_quote : CodePoint.isBlank quote = false := by decide

theorem not_isLineEnd_quote : CodePoint.isLineEnd quote = false := by decide

/-- A line with a literal is not blank, and one without is its own skeleton. -/
theorem startsBlank_skeleton (t : Text) : startsBlank (skeleton t) = startsBlank t := by
  induction t with
  | nil => rfl
  | cons c rest ih =>
    rw [skeleton, skeletonFrom_cons_of_code]
    by_cases hc : c = quote
    · rw [hc, startsBlank, startsBlank, not_isBlank_quote, Bool.false_and, Bool.false_and]
    · rw [Mode.next_code hc, startsBlank, startsBlank, ← skeleton, ih,
        Text.endsLine_congr c (head?_skeleton rest)]

theorem lead_skeleton (levels : Nat) (t : Text) : lead levels (skeleton t) = lead levels t := by
  rw [lead, lead, startsBlank_skeleton]

theorem skeleton_lead_append (levels : Nat) (line t : Text) :
    skeleton (lead levels line ++ t) = lead levels line ++ skeleton t := by
  have hnext : Mode.code.next CodePoint.space = .code := rfl
  refine lead_induction levels
    (P := fun spaces => skeleton (spaces ++ t) = spaces ++ skeleton t)
    rfl (fun spaces ih => ?_) line
  rw [List.cons_append, skeleton, skeletonFrom_cons_of_code, hnext, ← skeleton, ih,
    List.cons_append]

/-- Spaces inside of a literal are part of its content. -/
theorem skeletonFrom_literal_lead_append (levels : Nat) (line t : Text) :
    skeletonFrom .literal (lead levels line ++ t) = skeletonFrom .literal t := by
  have hnext : Mode.literal.next CodePoint.space = .literal := rfl
  refine lead_induction levels
    (P := fun spaces => skeletonFrom .literal (spaces ++ t) = skeletonFrom .literal t)
    rfl (fun spaces ih => ?_) line
  rw [List.cons_append, skeletonFrom_cons_of_inside (by decide) (by decide), hnext, ih]

/-- The skeleton of indented source is the indented skeleton: what is inserted inside of a literal
goes with its content. -/
theorem skeletonFrom_indentTail (m : Mode) (levels : Nat) (t : Text) :
    skeletonFrom m (indentTail levels t) = indentTail levels (skeletonFrom m t) := by
  induction t generalizing m with
  | nil => rfl
  | cons c rest ih =>
    by_cases hends : Text.endsLine c rest
    · have hline := Text.isLineEnd_of_endsLine hends
      have hnext := Mode.next_of_isLineEnd (m := m) hline
      rw [indentTail_cons_of_endsLine levels hends]
      by_cases hm : m = .code
      · subst hm
        rw [if_pos rfl] at hnext
        have hends' : Text.endsLine c (skeleton rest) := by
          rwa [Text.endsLine_congr c (head?_skeleton rest)]
        rw [skeletonFrom_cons_of_code, skeletonFrom_cons_of_code, hnext, ← skeleton,
          skeleton_lead_append, skeleton, ih, ← skeleton,
          indentTail_cons_of_endsLine levels hends', lead_skeleton]
      · rw [if_neg hm] at hnext
        have hinside : m.next c ≠ .code := by rw [hnext]; decide
        rw [skeletonFrom_cons_of_inside hm hinside, skeletonFrom_cons_of_inside hm hinside, hnext,
          skeletonFrom_literal_lead_append, ih]
    · rw [indentTail_cons_of_not_endsLine levels hends, skeletonFrom, skeletonFrom]
      split
      · rename_i hkept
        rw [ih]
        by_cases hc : c = quote
        · rw [hc, indentTail_cons_of_not_isLineEnd levels not_isLineEnd_quote]
        · have hm : m = .code := Decidable.byContradiction fun hm =>
            hc (Mode.eq_quote_of_next_eq_code hm (hkept.resolve_left hm)).2
          have hnext : m.next c = .code := by rw [hm, Mode.next_code hc]
          have hends' : ¬ Text.endsLine c (skeletonFrom (m.next c) rest) := by
            rwa [hnext, ← skeleton, Text.endsLine_congr c (head?_skeleton rest)]
          rw [indentTail_cons_of_not_endsLine levels hends']
      · rw [ih]

end Dart

end Wireframe
