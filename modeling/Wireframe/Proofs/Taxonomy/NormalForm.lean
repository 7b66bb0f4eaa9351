import Mathlib.Data.List.Chain
import Mathlib.Data.List.DropRight
import Wireframe.Proofs.Text.Lowercase
import Wireframe.Taxonomy.NormalForm

/-!
# Labels in normal form

A label in normal form is in lower case, has no separators but single spaces, and neither begins nor
ends with one (`IsNormal`). That is what the normal form of a label is, and what is left as it is by
bringing it to normal form again.

Main statement: `normalLabel_normalLabel`.
-/
namespace Wireframe

namespace Text

open CodePoint

/-! ## Trimming -/

section Trimming

variable {p : Nat → Bool}

theorem trimBy_eq_rdropWhile (p : Nat → Bool) (t : Text) :
    t.trimBy p = (t.dropWhile p).rdropWhile p := rfl

theorem isInfix_trimBy (p : Nat → Bool) (t : Text) : t.trimBy p <:+: t := by
  rw [trimBy_eq_rdropWhile]
  exact (List.rdropWhile_prefix p _).isInfix.trans (List.dropWhile_suffix p).isInfix

theorem not_of_mem_head?_trimBy {t : Text} {c : Nat} (h : c ∈ (t.trimBy p).head?) :
    p c = false := by
  obtain ⟨rest, hrest⟩ := List.rdropWhile_prefix p (t.dropWhile p)
  rw [trimBy_eq_rdropWhile, Option.mem_def] at h
  have hnot := List.head?_dropWhile_not p t
  rw [← hrest, List.head?_append, h] at hnot
  simpa using hnot

theorem not_of_mem_getLast?_trimBy {t : Text} {c : Nat} (h : c ∈ (t.trimBy p).getLast?) :
    p c = false := by
  rw [trimBy, List.getLast?_reverse, Option.mem_def] at h
  have hnot := List.head?_dropWhile_not p (t.dropWhile p).reverse
  rw [h] at hnot
  simpa using hnot

theorem trimBy_eq_self {t : Text} (hfirst : ∀ c ∈ t.head?, p c = false)
    (hlast : ∀ c ∈ t.getLast?, p c = false) : t.trimBy p = t := by
  have hdrop (s : Text) (h : ∀ c ∈ s.head?, p c = false) : s.dropWhile p = s := by
    cases s with
    | nil => rfl
    | cons c rest => exact List.dropWhile_cons_of_neg (by simp [h c rfl])
  have hreverse : ∀ c ∈ t.reverse.head?, p c = false := by
    rw [List.head?_reverse]
    exact hlast
  rw [trimBy, hdrop t hfirst, hdrop t.reverse hreverse, List.reverse_reverse]

end Trimming

/-! ## Separators -/

/-- The separators of the text are single spaces. -/
structure IsSpaced (t : Text) : Prop where
  space : ∀ c ∈ t, isSeparator c = true → c = space
  apart : t.IsChain fun c d => ¬(isSeparator c = true ∧ isSeparator d = true)

theorem IsSpaced.of_isInfix {t part : Text} (h : IsSpaced t) (hpart : part <:+: t) :
    IsSpaced part :=
  ⟨fun c hc => h.space c (hpart.mem hc), List.IsChain.infix h.apart hpart⟩

theorem mem_collapseFrom {inRun : Bool} {t : Text} {c : Nat} (h : c ∈ collapseFrom inRun t) :
    c = space ∨ c ∈ t ∧ isSeparator c = false := by
  induction t generalizing inRun with
  | nil => exact absurd h List.not_mem_nil
  | cons d rest ih =>
    have hrest {inRun : Bool} (h : c ∈ collapseFrom inRun rest) :
        c = space ∨ c ∈ d :: rest ∧ isSeparator c = false :=
      (ih h).imp_right fun ⟨hmem, hnot⟩ => ⟨List.mem_cons_of_mem d hmem, hnot⟩
    rw [collapseFrom] at h
    split at h
    · split at h
      · exact hrest h
      · rcases List.mem_cons.1 h with rfl | h
        · exact .inl rfl
        · exact hrest h
    · rename_i hd
      rcases List.mem_cons.1 h with rfl | h
      · exact .inr ⟨List.mem_cons_self, Bool.eq_false_iff.2 hd⟩
      · exact hrest h

/-- After a separator no other one is written. -/
theorem not_isSeparator_head?_collapseFrom {t : Text} {c : Nat}
    (h : c ∈ (collapseFrom true t).head?) : isSeparator c = false := by
  induction t with
  | nil => simp [collapseFrom] at h
  | cons d rest ih =>
    rw [collapseFrom] at h
    split at h
    · exact ih h
    · simp_all

theorem isSpaced_collapseFrom (inRun : Bool) (t : Text) : IsSpaced (collapseFrom inRun t) := by
  refine ⟨?_, ?_⟩
  · intro c hc hseparator
    rcases mem_collapseFrom hc with heq | ⟨-, hnot⟩
    · exact heq
    · rw [hnot] at hseparator
      cases hseparator
  · fun_induction collapseFrom inRun t with
    | case1 => exact .nil
    | case2 d rest hd ih => exact ih
    | case3 inRun d rest hd hrun ih =>
      refine List.isChain_cons.2 ⟨?_, ih⟩
      rintro e he ⟨-, hseparator⟩
      rw [not_isSeparator_head?_collapseFrom he] at hseparator
      cases hseparator
    | case4 inRun d rest hd ih =>
      refine List.isChain_cons.2 ⟨?_, ih⟩
      rintro e - ⟨hseparator, -⟩
      exact hd hseparator

theorem collapseFrom_eq_self {t : Text} (h : IsSpaced t) {inRun : Bool}
    (hrun : inRun = true → ∀ c ∈ t.head?, isSeparator c = false) : collapseFrom inRun t = t := by
  induction t generalizing inRun with
  | nil => rfl
  | cons c rest ih =>
    obtain ⟨hnext, -⟩ := List.isChain_cons.1 h.apart
    have hrest : IsSpaced rest := h.of_isInfix (List.suffix_cons c rest).isInfix
    rw [collapseFrom]
    split
    · rename_i hc
      have hfirst : inRun ≠ true := by
        intro heq
        rw [hrun heq c rfl] at hc
        cases hc
      have hafter : ∀ d ∈ rest.head?, isSeparator d = false := by
        intro d hd
        rw [Bool.eq_false_iff]
        exact fun hseparator => hnext d hd ⟨hc, hseparator⟩
      rw [if_neg hfirst, ih hrest fun _ => hafter, h.space c List.mem_cons_self hc]
    · have hoff : false = true → ∀ c ∈ rest.head?, isSeparator c = false := by simp
      rw [ih hrest hoff]

/-! ## Normal form -/

/-- The label is in normal form. -/
structure IsNormal (t : Text) : Prop where
  folded : ∀ c ∈ t, IsFolded c
  spaced : IsSpaced t
  first : ∀ c ∈ t.head?, CodePoint.isBlank c = false
  last : ∀ c ∈ t.getLast?, CodePoint.isBlank c = false

theorem isNormal_normalLabel (t : Text) : IsNormal t.normalLabel where
  folded := by
    intro c hc
    rcases mem_collapseFrom ((isInfix_trimBy _ _).mem hc) with rfl | ⟨hmem, -⟩
    · exact isFolded_space
    · exact isFolded_of_mem_lower hmem
  spaced := (isSpaced_collapseFrom false _).of_isInfix (isInfix_trimBy _ _)
  first := fun _ => not_of_mem_head?_trimBy
  last := fun _ => not_of_mem_getLast?_trimBy

theorem normalLabel_eq_self {t : Text} (h : IsNormal t) : t.normalLabel = t := by
  have hstrip : t.strip = t := trimBy_eq_self h.first h.last
  have hcollapse : collapseSeparators t = t := collapseFrom_eq_self h.spaced (by simp)
  rw [normalLabel, hstrip, lower_eq_self h.folded, hcollapse, hstrip]

/-- The normal form of a label is its own normal form. -/
theorem normalLabel_normalLabel (t : Text) : t.normalLabel.normalLabel = t.normalLabel :=
  normalLabel_eq_self (isNormal_normalLabel t)

end Text

end Wireframe
