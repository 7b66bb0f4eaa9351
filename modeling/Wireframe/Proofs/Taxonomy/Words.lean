import Mathlib.Data.List.DropRight
import Wireframe.Proofs.Taxonomy.NormalForm
import Wireframe.Proofs.Text.Parts

/-!
# Words of labels

A label is a run of words between separators. Lower-casing takes each word by itself, because the
context of a letter ends at a separator (`words_lower`), and stripping, collapsing and exchanging
separators leave the words as they are. So the normal form of a label is its words in lower case
with a space between neighbours (`normalLabel_eq_join`).

All here follows from one equation, `words_append_cons`: a separator divides a label.

Main statement: `normalLabel_words`.
-/
namespace Wireframe

/-! ## Separators -/

namespace CodePoint

/-- The separators, by their first and last code points. -/
def separatorRanges : List (Nat × Nat) := [
  (0x09, 0x0D), (0x1C, 0x20), (0x2D, 0x2D), (0x5F, 0x5F), (0x85, 0x85), (0xA0, 0xA0),
  (0x1680, 0x1680), (0x2000, 0x200A), (0x2028, 0x2029), (0x202F, 0x202F), (0x205F, 0x205F),
  (0x3000, 0x3000)]

theorem isSeparator_iff {c : Nat} :
    isSeparator c = true ↔ ∃ range ∈ separatorRanges, range.1 ≤ c ∧ c ≤ range.2 := by
  simp [isSeparator, isBlank, isWhiteSpace, within, separatorRanges]
  omega

theorem isSeparator_of_isBlank {c : Nat} (h : isBlank c = true) : isSeparator c = true := by
  simp [isSeparator, h]

theorem isLetter_of_isSeparator {c : Nat} (h : isSeparator c = true) :
    isLetter c = false ∧ c ≠ 0x130 ∧ c ≠ capitalSigma := by
  simp [isSeparator, isBlank, isWhiteSpace, within] at h
  simp [isLetter, isUpper, isLower, capitalSigma]
  omega

/-- No separator has a part in any table of lower-casing. -/
theorem separatorRanges_avoided : (separatorRanges.all fun range =>
    avoidedBy caseIgnorableRanges range.1 range.2 && avoidedBy casedRanges range.1 range.2 &&
      avoidedBy (lowercaseRuns.map fun run => (run.first, run.last)) range.1 range.2) = true := by
  decide +kernel

theorem within_of_isSeparator {c : Nat} (h : isSeparator c = true) :
    within caseIgnorableRanges c = false ∧ within casedRanges c = false ∧
      within (lowercaseRuns.map fun run => (run.first, run.last)) c = false := by
  obtain ⟨range, hrange, hfirst, hlast⟩ := isSeparator_iff.1 h
  have havoided := List.all_eq_true.1 separatorRanges_avoided range hrange
  simp only [Bool.and_eq_true] at havoided
  obtain ⟨⟨hignorable, hcased⟩, hruns⟩ := havoided
  exact ⟨within_eq_false hignorable hfirst hlast, within_eq_false hcased hfirst hlast,
    within_eq_false hruns hfirst hlast⟩

/-- No run of the case table moves a code point to a separator. -/
theorem lowercaseRuns_avoid_separators : (lowercaseRuns.all fun run =>
    separatorRanges.all fun range => run.avoids ⟨range.1, range.2, 1, 0⟩) = true := by
  decide +kernel

theorem toLower_of_isSeparator {c : Nat} (h : isSeparator c = true) :
    CodePoint.toLower c = [c] := by
  obtain ⟨hletter, hdotted, -⟩ := isLetter_of_isSeparator h
  have hupper : isUpper c = false := (Bool.or_eq_false_iff.1 hletter).1
  obtain ⟨-, -, hruns⟩ := within_of_isSeparator h
  have hnone : lowercaseRuns.find? (·.contains c) = none := by
    rw [List.find?_eq_none]
    intro run hrun hc
    have hwithin : within (lowercaseRuns.map fun run => (run.first, run.last)) c = true := by
      simp only [CaseRun.contains, Bool.and_eq_true] at hc
      rw [within, List.any_map, List.any_eq_true]
      exact ⟨run, hrun, Bool.and_eq_true_iff.2 hc.1⟩
    rw [hruns] at hwithin
    cases hwithin
  rw [CodePoint.toLower, toAsciiLower, hupper, if_neg hdotted, hnone]
  simp

/-- Separators have no case, are not ignored and are not moved by lower-casing. -/
theorem isCaseBoundary_of_isSeparator {c : Nat} (h : isSeparator c = true) : IsCaseBoundary c := by
  obtain ⟨hletter, -, hsigma⟩ := isLetter_of_isSeparator h
  obtain ⟨hignorable, hcased, -⟩ := within_of_isSeparator h
  refine ⟨⟨toLower_of_isSeparator h, hsigma⟩, ?_, hignorable⟩
  rw [isCased, hletter, hcased, ite_self]

theorem not_isSeparator_image {run : CaseRun} (hrun : run ∈ lowercaseRuns) {c : Nat}
    (hc : run.contains c = true) : isSeparator (run.image c) = false := by
  have hchecked := List.all_eq_true.1 lowercaseRuns_avoid run hrun
  rw [Bool.and_eq_true, decide_eq_true_eq] at hchecked
  rw [Bool.eq_false_iff]
  intro hseparator
  obtain ⟨range, hrange, hfirst, hlast⟩ := isSeparator_iff.1 hseparator
  have havoids := List.all_eq_true.1 (List.all_eq_true.1 lowercaseRuns_avoid_separators run hrun)
    range hrange
  have hmiss := CaseRun.not_contains_image hchecked.1 havoids hc
  simp only [CaseRun.contains, Nat.mod_one, Bool.and_eq_false_iff, decide_eq_false_iff_not,
    beq_self_eq_true, Bool.true_eq_false, or_false] at hmiss
  omega

/-- The lower case of what is not a separator has no separators. -/
theorem isSeparator_of_mem_toLower {c d : Nat} (hc : isSeparator c = false)
    (hd : d ∈ CodePoint.toLower c) : isSeparator d = false := by
  unfold CodePoint.toLower at hd
  split at hd
  · rw [List.mem_singleton.1 hd, toAsciiLower]
    split
    next hupper =>
      obtain ⟨hfirst, hlast⟩ := isUpper_iff.1 hupper
      simp [isSeparator, isBlank, isWhiteSpace, within]
      omega
    next => exact hc
  · split at hd
    · have himage : ∀ d ∈ [0x69, 0x307], isSeparator d = false := by decide
      exact himage d hd
    · split at hd
      · rename_i run hfind
        have hrun : run ∈ lowercaseRuns := List.mem_of_find?_eq_some hfind
        have hcontains : run.contains c = true := by simpa using List.find?_some hfind
        rw [List.mem_singleton.1 hd]
        exact not_isSeparator_image hrun hcontains
      · rw [List.mem_singleton.1 hd, hc]

theorem toLower_ne_nil (c : Nat) : CodePoint.toLower c ≠ [] := by
  unfold CodePoint.toLower
  split
  · simp
  · split
    · simp
    · split <;> simp

end CodePoint

namespace Text

open CodePoint

/-! ## Words -/

/-- The maximal runs of code points that are not separators. -/
def words (t : Text) : List Text := (t.splitOnP isSeparator).filter (· ≠ [])

theorem words_nil : words [] = [] := by decide

/-- A separator divides a label. -/
theorem words_append_cons {c : Nat} (hc : isSeparator c = true) (a b : Text) :
    words (a ++ c :: b) = words a ++ words b := by
  rw [words, List.splitOnP_append_cons a b hc, List.filter_append]
  rfl

theorem words_cons {c : Nat} (hc : isSeparator c = true) (t : Text) : words (c :: t) = words t :=
  words_append_cons hc [] t

theorem words_concat {c : Nat} (hc : isSeparator c = true) (t : Text) :
    words (t ++ [c]) = words t := by
  rw [words_append_cons hc, words_nil, List.append_nil]

/-- A label without separators is one word, or empty. -/
theorem words_of_not_isSeparator {t : Text} (h : ∀ c ∈ t, isSeparator c = false) :
    words t = if t = [] then [] else [t] := by
  rw [words, List.splitOnP_eq_singleton h]
  by_cases ht : t = [] <;> simp [ht]

/-- Labels are built from their words: the last one, and each other one before a separator. -/
theorem words_induction {P : Text → Prop}
    (last : ∀ word : Text, (∀ c ∈ word, isSeparator c = false) → P word)
    (divided : ∀ (word : Text) (c : Nat) (t : Text), (∀ d ∈ word, isSeparator d = false) →
      isSeparator c = true → P t → P (word ++ c :: t)) (t : Text) : P t := by
  have hbefore : ∀ word : Text, (∀ c ∈ word, isSeparator c = false) → P (word ++ t) := by
    induction t with
    | nil =>
      intro word hword
      rw [List.append_nil]
      exact last word hword
    | cons c t ih =>
      intro word hword
      cases hc : isSeparator c with
      | true => exact divided word c t hword hc (ih [] (by simp))
      | false =>
        rw [List.append_cons]
        refine ih (word ++ [c]) ?_
        intro d hd
        rcases List.mem_append.1 hd with hd | hd
        · exact hword d hd
        · rw [List.mem_singleton.1 hd, hc]
  exact hbefore [] (by simp)

/-! ## What keeps the words -/

/-- Exchanging separators for others keeps the words. -/
theorem words_map {f : Nat → Nat}
    (hseparator : ∀ c, isSeparator c = true → isSeparator (f c) = true)
    (hother : ∀ c, isSeparator c = false → f c = c) (t : Text) : words (t.map f) = words t := by
  have hwords (word : Text) (hword : ∀ c ∈ word, isSeparator c = false) : word.map f = word :=
    (List.map_congr_left fun c hc => hother c (hword c hc)).trans (List.map_id word)
  refine words_induction (P := fun t => words (t.map f) = words t) ?_ ?_ t
  · intro word hword
    rw [hwords word hword]
  · intro word c t hword hc ih
    rw [List.map_append, List.map_cons, hwords word hword, words_append_cons (hseparator c hc),
      words_append_cons hc, ih]

theorem words_replace {old new : Nat} (hold : isSeparator old = true)
    (hnew : isSeparator new = true) (t : Text) : words (t.replace old new) = words t := by
  refine words_map ?_ ?_ t
  · intro c hc
    split
    · exact hnew
    · exact hc
  · intro c hc
    have hne : c ≠ old := by
      rintro rfl
      rw [hold] at hc
      cases hc
    rw [if_neg hne]

/-- Stripping keeps the words. -/
theorem words_strip (t : Text) : words t.strip = words t := by
  have hfront (t : Text) : words (t.dropWhile CodePoint.isBlank) = words t := by
    induction t with
    | nil => rfl
    | cons c t ih =>
      rw [List.dropWhile_cons]
      split
      next hc => rw [ih, words_cons (isSeparator_of_isBlank hc)]
      next => rfl
  have hback (t : Text) : words (t.rdropWhile CodePoint.isBlank) = words t := by
    induction t using List.reverseRecOn with
    | nil => rfl
    | append_singleton t c ih =>
      rw [List.rdropWhile_concat]
      split
      next hc => rw [ih, words_concat (isSeparator_of_isBlank hc)]
      next => rfl
  rw [strip, trimBy_eq_rdropWhile, hback, hfront]

/-- Collapsing separators keeps the words, whatever stands before. -/
theorem words_collapseFrom (t : Text) :
    words (collapseFrom true t) = words t ∧
      ∀ before : Text, words (before ++ collapseFrom false t) = words (before ++ t) := by
  have hspace : isSeparator space = true := by decide
  induction t with
  | nil => exact ⟨rfl, fun before => rfl⟩
  | cons c t ih =>
    obtain ⟨hrun, hbefore⟩ := ih
    rw [collapseFrom, collapseFrom]
    cases hc : isSeparator c with
    | true =>
      refine ⟨?_, fun before => ?_⟩
      · simp only [if_true]
        rw [hrun, words_cons hc]
      · simp only [if_true, Bool.false_eq_true, if_false]
        rw [words_append_cons hspace, words_append_cons hc, hrun]
    | false =>
      simp only [Bool.false_eq_true, if_false]
      refine ⟨hbefore [c], fun before => ?_⟩
      rw [List.append_cons, hbefore, ← List.append_cons]

theorem words_collapseSeparators (t : Text) : words (collapseSeparators t) = words t :=
  (words_collapseFrom t).2 []

/-! ## Words in lower case -/

theorem isSeparator_of_mem_lowerAfter {cased : Bool} {t : Text}
    (h : ∀ c ∈ t, isSeparator c = false) {d : Nat} (hd : d ∈ lowerAfter cased t) :
    isSeparator d = false := by
  induction t generalizing cased with
  | nil => exact absurd hd List.not_mem_nil
  | cons c t ih =>
    rw [lowerAfter] at hd
    rcases List.mem_append.1 hd with himage | hrest
    · split at himage
      · have hsigmas : isSeparator finalSigma = false ∧ isSeparator smallSigma = false := by decide
        rw [List.mem_singleton.1 himage]
        split
        · exact hsigmas.1
        · exact hsigmas.2
      · exact isSeparator_of_mem_toLower (h c List.mem_cons_self) himage
    · exact ih (fun e he => h e (List.mem_cons_of_mem c he)) hrest

theorem lower_eq_nil_iff {t : Text} : t.lower = [] ↔ t = [] := by
  cases t with
  | nil => simp [lower, lowerAfter]
  | cons c t =>
    rw [lower, lowerAfter]
    split <;> simp [toLower_ne_nil]

/-- **Words are lower-cased one by one.** -/
theorem words_lower (t : Text) : words t.lower = (words t).map lower := by
  have hwords (word : Text) (hword : ∀ c ∈ word, isSeparator c = false) :
      words word.lower = (words word).map lower := by
    have hlower : ∀ d ∈ word.lower, isSeparator d = false :=
      fun d => isSeparator_of_mem_lowerAfter hword
    rw [words_of_not_isSeparator hword, words_of_not_isSeparator hlower]
    simp only [lower_eq_nil_iff]
    split <;> rfl
  refine words_induction (P := fun t => words t.lower = (words t).map lower) hwords ?_ t
  intro word c t hword hc ih
  rw [lower_append_cons (isCaseBoundary_of_isSeparator hc), words_append_cons hc,
    words_append_cons hc, List.map_append, hwords word hword, ih]

/-! ## Labels from words -/

section Divided

variable {word : Text} {c : Nat} {t : Text} (hc : isSeparator c = true)
  (h : IsNormal (word ++ c :: t))

include hc h

/-- A separator of a label in normal form is a space between other code points. -/
theorem IsNormal.divides : c = space ∧ word ≠ [] ∧ t ≠ [] := by
  have hspace : c = space := h.spaced.space c (by simp) hc
  have hblank : CodePoint.isBlank c = true := by rw [hspace]; decide
  refine ⟨hspace, ?_, ?_⟩
  · rintro rfl
    have hfirst := h.first c rfl
    rw [hblank] at hfirst
    cases hfirst
  · rintro rfl
    have hlast := h.last c (by simp)
    rw [hblank] at hlast
    cases hlast

theorem IsNormal.after : IsNormal t := by
  obtain ⟨-, -, hafter⟩ := h.divides hc
  have hdivided : c :: t <:+: word ++ c :: t := (List.suffix_append word (c :: t)).isInfix
  have hsuffix : t <:+: word ++ c :: t := (List.suffix_cons c t).isInfix.trans hdivided
  obtain ⟨hapart, -⟩ := List.isChain_cons.1 (h.spaced.of_isInfix hdivided).apart
  refine ⟨fun d hd => h.folded d (hsuffix.mem hd), h.spaced.of_isInfix hsuffix, ?_, ?_⟩
  · intro d hd
    rw [Bool.eq_false_iff]
    intro hblank
    exact hapart d hd ⟨hc, isSeparator_of_isBlank hblank⟩
  · intro d hd
    refine h.last d ?_
    rw [List.getLast?_append_of_ne_nil _ (List.cons_ne_nil c t), List.getLast?_cons]
    rw [Option.mem_def] at hd
    simp [hd]

end Divided

/-- A label in normal form is its words with a space between neighbours. -/
theorem join_words {t : Text} (h : IsNormal t) : join [space] (words t) = t := by
  induction t using words_induction with
  | last word hword =>
    rw [words_of_not_isSeparator hword]
    split
    next hempty =>
      rw [hempty]
      rfl
    next => rfl
  | divided word c t hword hc ih =>
    obtain ⟨hspace, hbefore, hafter⟩ := h.divides hc
    have hjoin : join [space] (words t) = t := ih (h.after hc)
    have hwords : words t ≠ [] := by
      intro hnone
      rw [hnone] at hjoin
      exact hafter hjoin.symm
    rw [words_append_cons hc, words_of_not_isSeparator hword, if_neg hbefore,
      join_append _ (List.cons_ne_nil _ _) hwords, hjoin, hspace]
    rfl

theorem words_normalLabel (t : Text) : words t.normalLabel = (words t).map lower := by
  rw [normalLabel, words_strip, words_collapseSeparators, words_lower, words_strip]

/-- The normal form of a label is its words in lower case, with a space between neighbours. -/
theorem normalLabel_eq_join (t : Text) : t.normalLabel = join [space] ((words t).map lower) := by
  rw [← words_normalLabel, join_words (isNormal_normalLabel t)]

/-- Labels have one normal form just if their words have one lower case. -/
theorem normalLabel_eq_iff {t t' : Text} :
    t.normalLabel = t'.normalLabel ↔ (words t).map lower = (words t').map lower := by
  constructor
  · intro h
    rw [← words_normalLabel, h, words_normalLabel]
  · intro h
    rw [normalLabel_eq_join, h, ← normalLabel_eq_join]

/-- **The normal form goes word by word.** A label in normal form is the words of the label, each in
lower case by itself, with a space between neighbours. So it stays as it is when it is brought to
normal form again, and neither the separators around the words nor the case of ASCII letters make a
difference. -/
theorem normalLabel_words (t : Text) :
    t.normalLabel = join [space] (t.words.map lower) ∧
      t.normalLabel.normalLabel = t.normalLabel ∧
      ∀ t' : Text, t.words.map toAsciiLower = t'.words.map toAsciiLower →
        t.normalLabel = t'.normalLabel := by
  refine ⟨normalLabel_eq_join t, normalLabel_normalLabel t, ?_⟩
  intro t' h
  have hlower (ws : List Text) : (ws.map toAsciiLower).map lower = ws.map lower := by
    rw [List.map_map]
    exact List.map_congr_left fun word _ => lower_toAsciiLower word
  rw [normalLabel_eq_iff, ← hlower, h, hlower]

section Respelling

def pagerLabel : Text := "  Page__Indicator - Dots "

def pagerRespelled : Text := "-page INDICATOR\tdots_"

theorem normalLabel_words_pager :
    pagerLabel.words.map toAsciiLower = pagerRespelled.words.map toAsciiLower ∧
      pagerLabel.normalLabel = pagerRespelled.normalLabel ∧
      pagerLabel.normalLabel = "page indicator dots" := by
  obtain ⟨hjoin, -, hsame⟩ := normalLabel_words pagerLabel
  have hwords : pagerLabel.words.map toAsciiLower = pagerRespelled.words.map toAsciiLower := by
    decide +kernel
  refine ⟨hwords, hsame _ hwords, ?_⟩
  rw [hjoin]
  decide +kernel

end Respelling

end Text

end Wireframe
