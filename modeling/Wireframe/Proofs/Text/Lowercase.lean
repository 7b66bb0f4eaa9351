import Wireframe.Text.Lowercase

/-!
# Lower case is final

What lower-casing makes is left as it is by lower-casing: the case table moves no code point to one
that it moves again (`lowercaseRuns_avoid`), and the two exceptions are treated alike.

Main statements: `isFolded_of_mem_lower`; of what stands apart, `lower_append_cons`; and, of words
of ASCII, `lower_eq_iff`.
-/
namespace Wireframe

/-! ## Runs of the case table -/

namespace CaseRun

/-- Where a run moves a code point. -/
def image (run : CaseRun) (c : Nat) : Nat := ((c : Int) + run.offset).toNat

/-- Whether a run moves its code points beside another one, or between the code points of it. The
comparisons are those that the kernel carries out at once, for there are thirty thousand pairs. -/
def avoids (run other : CaseRun) : Bool :=
  (run.image run.last).blt other.first || other.last.blt (run.image run.first) ||
    (run.first.beq run.last || run.stride.beq 2) && other.stride.beq 2 &&
      ((run.image run.first + other.first) % 2).beq 1

theorem not_contains_image {run other : CaseRun} (hnonneg : 0 ≤ (run.first : Int) + run.offset)
    (h : run.avoids other = true) {c : Nat} (hc : run.contains c = true) :
    other.contains (run.image c) = false := by
  simp only [contains, Bool.and_eq_true, decide_eq_true_eq, beq_iff_eq] at hc
  obtain ⟨⟨hfirst, hlast⟩, hstride⟩ := hc
  rw [Bool.eq_false_iff]
  intro hother
  simp only [contains, Bool.and_eq_true, decide_eq_true_eq, beq_iff_eq] at hother
  simp only [avoids, Bool.or_eq_true, Bool.and_eq_true, Nat.blt_eq, Nat.beq_eq] at h
  unfold image at *
  obtain (hbelow | habove) | ⟨⟨hthin, htwo⟩, hodd⟩ := h
  · omega
  · omega
  · rw [htwo] at hother
    rcases hthin with hsingle | hthin
    · omega
    · rw [hthin] at hstride
      omega

end CaseRun

namespace CodePoint

/-- The capital I with a dot, whose lower case is two code points. -/
def dottedCapitalI : CaseRun := ⟨0x130, 0x130, 1, 0⟩

/-- No run moves a code point into a run, nor to the exception that has none. -/
theorem lowercaseRuns_avoid : (lowercaseRuns.all fun run =>
    decide (0 ≤ (run.first : Int) + run.offset) &&
      (dottedCapitalI :: lowercaseRuns).all run.avoids) = true := by
  decide +kernel

/-! ## Code points -/

/-- Lower-casing leaves the code point as it is, whatever stands beside it. -/
structure IsFolded (c : Nat) : Prop where
  toLower : toLower c = [c]
  ne_capitalSigma : c ≠ capitalSigma

theorem isFolded_toAsciiLower {c : Nat} (h : c < 0x80) : IsFolded (toAsciiLower c) := by
  have hlt : toAsciiLower c < 0x80 := by
    unfold toAsciiLower isUpper
    split <;> simp_all
    omega
  have htwice : toAsciiLower (toAsciiLower c) = toAsciiLower c := by
    unfold toAsciiLower isUpper
    split <;> simp_all
    omega
  refine ⟨?_, ?_⟩
  · rw [CodePoint.toLower, if_pos hlt, htwice]
  · unfold capitalSigma
    omega

theorem isFolded_image {run : CaseRun} (hrun : run ∈ lowercaseRuns) {c : Nat}
    (hc : run.contains c = true) : IsFolded (run.image c) := by
  have hchecked := List.all_eq_true.1 lowercaseRuns_avoid run hrun
  rw [Bool.and_eq_true, decide_eq_true_eq, List.all_eq_true] at hchecked
  obtain ⟨hnonneg, havoids⟩ := hchecked
  have hmisses : ∀ other ∈ dottedCapitalI :: lowercaseRuns,
      other.contains (run.image c) = false :=
    fun other hother => CaseRun.not_contains_image hnonneg (havoids other hother) hc
  have hdotted : run.image c ≠ 0x130 := by
    intro h
    have hmiss := hmisses dottedCapitalI List.mem_cons_self
    rw [h] at hmiss
    exact absurd hmiss (by decide)
  have hruns : ∀ other ∈ lowercaseRuns, other.contains (run.image c) = false :=
    fun other hother => hmisses other (List.mem_cons_of_mem _ hother)
  have hnone : lowercaseRuns.find? (·.contains (run.image c)) = none :=
    List.find?_eq_none.2 fun other hother => Bool.eq_false_iff.1 (hruns other hother)
  have hupper : isUpper (run.image c) = false := by
    have hcapitals := hruns ⟨0x0041, 0x005A, 1, 32⟩ List.mem_cons_self
    simpa [CaseRun.contains, Nat.mod_one, isUpper] using hcapitals
  refine ⟨?_, ?_⟩
  · unfold CodePoint.toLower toAsciiLower
    simp [hnone, hdotted, hupper]
  · intro h
    have hgreek := hruns ⟨0x03A3, 0x03AB, 1, 32⟩ (by decide +kernel)
    rw [h] at hgreek
    exact absurd hgreek (by decide)

theorem isFolded_of_mem_toLower {c d : Nat} (hc : c ≠ capitalSigma) (h : d ∈ CodePoint.toLower c) :
    IsFolded d := by
  unfold CodePoint.toLower at h
  split at h
  · rename_i hascii
    rw [List.mem_singleton.1 h]
    exact isFolded_toAsciiLower hascii
  · split at h
    · simp only [List.mem_cons, List.not_mem_nil, or_false] at h
      rcases h with rfl | rfl
      · exact ⟨by decide +kernel, by decide⟩
      · exact ⟨by decide +kernel, by decide⟩
    · split at h
      · rename_i run hfind
        have hcontains : run.contains c = true := by simpa using List.find?_some hfind
        rw [List.mem_singleton.1 h]
        exact isFolded_image (List.mem_of_find?_eq_some hfind) hcontains
      · rename_i hascii hdotted _ hfind
        rw [List.mem_singleton.1 h]
        refine ⟨?_, hc⟩
        unfold CodePoint.toLower
        rw [if_neg hascii, if_neg hdotted, hfind]

theorem isFolded_smallSigma : IsFolded smallSigma := ⟨by decide +kernel, by decide⟩

theorem isFolded_finalSigma : IsFolded finalSigma := ⟨by decide +kernel, by decide⟩

theorem isFolded_space : IsFolded space := ⟨by decide +kernel, by decide⟩

/-- Lower-casing leaves the code point as it is, and looks for the context of a letter no further
than up to it. -/
structure IsCaseBoundary (c : Nat) : Prop where
  folded : IsFolded c
  not_cased : isCased c = false
  not_ignorable : isCaseIgnorable c = false

/-! ## Ranges -/

/-- No range of the table meets the one from `first` to `last`. -/
def avoidedBy (ranges : List (Nat × Nat)) (first last : Nat) : Bool :=
  ranges.all fun range => range.2.blt first || last.blt range.1

theorem within_eq_false {ranges : List (Nat × Nat)} {first last : Nat}
    (h : avoidedBy ranges first last = true) {c : Nat} (hfirst : first ≤ c) (hlast : c ≤ last) :
    within ranges c = false := by
  rw [within, List.any_eq_false]
  intro range hrange hc
  have havoids := List.all_eq_true.1 h range hrange
  simp only [Bool.or_eq_true, Nat.blt_eq, Bool.and_eq_true, decide_eq_true_eq] at havoids hc
  omega

/-! ## Letters of ASCII -/

theorem isUpper_iff {c : Nat} : isUpper c = true ↔ 0x41 ≤ c ∧ c ≤ 0x5A := by
  simp [isUpper]

/-- What folding the letters of ASCII keeps of each of them, it keeps of every code point. -/
theorem toAsciiLower_induction {α : Type} {f : Nat → α}
    (letter : ∀ c, 0x41 ≤ c → c ≤ 0x5A → f (c + 0x20) = f c) (c : Nat) :
    f (toAsciiLower c) = f c := by
  unfold toAsciiLower
  split
  next hupper =>
    obtain ⟨hfirst, hlast⟩ := isUpper_iff.1 hupper
    exact letter c hfirst hlast
  next => rfl

/-- Folding the letters of ASCII first makes no difference to lower-casing. -/
theorem toLower_toAsciiLower (c : Nat) : toLower (toAsciiLower c) = toLower c := by
  refine toAsciiLower_induction ?_ c
  intro c hfirst hlast
  have hupper : isUpper c = true := isUpper_iff.2 ⟨hfirst, hlast⟩
  have hlower : isUpper (c + 0x20) = false := by
    rw [Bool.eq_false_iff, Ne, isUpper_iff]
    omega
  have hascii : c < 0x80 ∧ c + 0x20 < 0x80 := by omega
  rw [CodePoint.toLower, if_pos hascii.2, CodePoint.toLower, if_pos hascii.1, toAsciiLower, hlower,
    toAsciiLower, hupper]
  rfl

theorem isCased_toAsciiLower (c : Nat) : isCased (toAsciiLower c) = isCased c := by
  refine toAsciiLower_induction ?_ c
  intro c hfirst hlast
  have hascii : c < 0x80 ∧ c + 0x20 < 0x80 := by omega
  have hcapital : isLetter c = true := by
    rw [isLetter, isUpper_iff.2 ⟨hfirst, hlast⟩, Bool.true_or]
  have hsmall : isLetter (c + 0x20) = true := by
    simp [isLetter, isLower]
    omega
  rw [isCased, if_pos hascii.2, isCased, if_pos hascii.1, hcapital, hsmall]

theorem isCaseIgnorable_toAsciiLower (c : Nat) :
    isCaseIgnorable (toAsciiLower c) = isCaseIgnorable c := by
  refine toAsciiLower_induction ?_ c
  intro c hfirst hlast
  have hcapitals : avoidedBy caseIgnorableRanges 0x41 0x5A = true := by decide +kernel
  have hsmall : avoidedBy caseIgnorableRanges 0x61 0x7A = true := by decide +kernel
  rw [isCaseIgnorable, within_eq_false hcapitals hfirst hlast,
    within_eq_false hsmall (by omega) (by omega)]

theorem toAsciiLower_eq_capitalSigma {c : Nat} :
    toAsciiLower c = capitalSigma ↔ c = capitalSigma := by
  unfold toAsciiLower isUpper capitalSigma
  split
  · simp_all
    omega
  · rfl

/-! ## Beyond ASCII -/

/-- The small letter k, the lower case of the Kelvin sign too. -/
def smallK : Nat := 0x6B

/-- No run from beyond ASCII leads into ASCII but that of the Kelvin sign, which leads to k. -/
theorem lowercaseRuns_beyond : (lowercaseRuns.all fun run =>
    run.last.blt 0x80 || Nat.ble 0x80 (run.image run.first) ||
      run.first.beq run.last && (run.image run.first).beq smallK) = true := by
  decide +kernel

theorem image_beyond {run : CaseRun} (hrun : run ∈ lowercaseRuns) {c : Nat}
    (hc : run.contains c = true) (h : 0x80 ≤ c) : 0x80 ≤ run.image c ∨ run.image c = smallK := by
  have hchecked := List.all_eq_true.1 lowercaseRuns_beyond run hrun
  simp only [CaseRun.contains, Bool.and_eq_true, decide_eq_true_eq] at hc
  simp only [Bool.or_eq_true, Bool.and_eq_true, Nat.blt_eq, Nat.ble_eq, Nat.beq_eq] at hchecked
  unfold CaseRun.image at *
  rcases hchecked with (hlast | hfirst) | ⟨hsingle, hkelvin⟩
  · omega
  · omega
  · have heq : c = run.first := by omega
    rw [heq]
    exact .inr hkelvin

/-- The lower case of a code point beyond ASCII shows that it was one, unless it is k. -/
theorem exists_mem_toLower_beyond {c : Nat} (h : 0x80 ≤ c) :
    ∃ d ∈ CodePoint.toLower c, 0x80 ≤ d ∨ d = smallK := by
  unfold CodePoint.toLower
  rw [if_neg (by omega)]
  split
  · exact ⟨0x307, by simp, by decide⟩
  · split
    · rename_i run hfind
      have hcontains : run.contains c = true := by simpa using List.find?_some hfind
      exact ⟨_, List.mem_singleton_self _,
        image_beyond (List.mem_of_find?_eq_some hfind) hcontains h⟩
    · exact ⟨c, List.mem_singleton_self c, .inl h⟩

end CodePoint

/-! ## Texts -/

namespace Text

open CodePoint

theorem isFolded_of_mem_lowerAfter {cased : Bool} {t : Text} {c : Nat}
    (h : c ∈ lowerAfter cased t) : IsFolded c := by
  induction t generalizing cased with
  | nil => exact absurd h List.not_mem_nil
  | cons d rest ih =>
    rw [lowerAfter] at h
    rcases List.mem_append.1 h with himage | hrest
    · split at himage
      · rw [List.mem_singleton.1 himage]
        split
        · exact isFolded_finalSigma
        · exact isFolded_smallSigma
      · rename_i hsigma
        exact isFolded_of_mem_toLower hsigma himage
    · exact ih hrest

theorem isFolded_of_mem_lower {t : Text} {c : Nat} (h : c ∈ t.lower) : IsFolded c :=
  isFolded_of_mem_lowerAfter h

theorem lowerAfter_eq_self {t : Text} (h : ∀ c ∈ t, IsFolded c) (cased : Bool) :
    lowerAfter cased t = t := by
  induction t generalizing cased with
  | nil => rfl
  | cons c rest ih =>
    have hc : IsFolded c := h c List.mem_cons_self
    rw [lowerAfter, if_neg hc.ne_capitalSigma, hc.toLower,
      ih fun d hd => h d (List.mem_cons_of_mem c hd), List.singleton_append]

theorem lower_eq_self {t : Text} (h : ∀ c ∈ t, IsFolded c) : t.lower = t :=
  lowerAfter_eq_self h false

/-! ## Parts between boundaries -/

theorem startsCased_cons (c : Nat) (t : Text) :
    startsCased (c :: t) = if isCaseIgnorable c then startsCased t else isCased c := by
  unfold startsCased
  rw [List.dropWhile_cons]
  split <;> simp

theorem startsCased_append_cons {c : Nat} (hc : IsCaseBoundary c) (a b : Text) :
    startsCased (a ++ c :: b) = startsCased a := by
  induction a with
  | nil =>
    rw [List.nil_append, startsCased_cons, hc.not_ignorable, hc.not_cased]
    rfl
  | cons d a ih => rw [List.cons_append, startsCased_cons, startsCased_cons, ih]

/-- What stands on two sides of a boundary is lower-cased apart. -/
theorem lowerAfter_append_cons {c : Nat} (hc : IsCaseBoundary c) (cased : Bool) (a b : Text) :
    lowerAfter cased (a ++ c :: b) = lowerAfter cased a ++ c :: lowerAfter false b := by
  induction a generalizing cased with
  | nil =>
    show lowerAfter cased (c :: b) = c :: lowerAfter false b
    rw [lowerAfter, if_neg hc.folded.ne_capitalSigma, hc.folded.toLower, hc.not_ignorable,
      hc.not_cased]
    rfl
  | cons d a ih =>
    rw [List.cons_append, lowerAfter, lowerAfter, ih, startsCased_append_cons hc,
      List.append_assoc]

theorem lower_append_cons {c : Nat} (hc : IsCaseBoundary c) (a b : Text) :
    lower (a ++ c :: b) = a.lower ++ c :: b.lower :=
  lowerAfter_append_cons hc false a b

/-! ## Letters of ASCII -/

theorem startsCased_toAsciiLower (t : Text) : startsCased t.toAsciiLower = startsCased t := by
  induction t with
  | nil => rfl
  | cons c t ih =>
    rw [toAsciiLower, List.map_cons, ← toAsciiLower, startsCased_cons, startsCased_cons, ih,
      isCaseIgnorable_toAsciiLower, isCased_toAsciiLower]

theorem lowerAfter_toAsciiLower (cased : Bool) (t : Text) :
    lowerAfter cased t.toAsciiLower = lowerAfter cased t := by
  induction t generalizing cased with
  | nil => rfl
  | cons c t ih =>
    rw [toAsciiLower, List.map_cons, ← toAsciiLower, lowerAfter, lowerAfter, ih,
      startsCased_toAsciiLower, toLower_toAsciiLower, isCaseIgnorable_toAsciiLower,
      isCased_toAsciiLower]
    simp only [toAsciiLower_eq_capitalSigma]

/-- Texts that differ in the case of ASCII letters only have one lower case. -/
theorem lower_toAsciiLower (t : Text) : t.toAsciiLower.lower = t.lower :=
  lowerAfter_toAsciiLower false t

/-! ## Texts of ASCII -/

/-- Of a text of ASCII only the letters of ASCII are folded. -/
theorem lowerAfter_of_ascii {t : Text} (h : ∀ c ∈ t, c < 0x80) (cased : Bool) :
    lowerAfter cased t = t.toAsciiLower := by
  induction t generalizing cased with
  | nil => rfl
  | cons c t ih =>
    rw [List.forall_mem_cons] at h
    have hsigma : c ≠ capitalSigma := by
      unfold capitalSigma
      omega
    rw [lowerAfter, if_neg hsigma, CodePoint.toLower, if_pos h.1, ih h.2]
    rfl

theorem ascii_of_lowerAfter {t : Text} {cased : Bool}
    (h : ∀ d ∈ lowerAfter cased t, d < 0x80 ∧ d ≠ smallK) : ∀ c ∈ t, c < 0x80 := by
  induction t generalizing cased with
  | nil => simp
  | cons c t ih =>
    rw [lowerAfter, List.forall_mem_append] at h
    refine List.forall_mem_cons.2 ⟨?_, ih h.2⟩
    have himage := h.1
    split at himage
    · -- The sigmas are beyond ASCII.
      have hsigma := (himage _ (List.mem_singleton_self _)).1
      split at hsigma <;> simp [finalSigma, smallSigma] at hsigma
    · rcases Nat.lt_or_ge c 0x80 with hc | hc
      · exact hc
      · obtain ⟨d, hmem, hd⟩ := exists_mem_toLower_beyond hc
        have hascii := himage d hmem
        omega

theorem ascii_of_toAsciiLower {t : Text} (h : ∀ d ∈ t.toAsciiLower, d < 0x80) :
    ∀ c ∈ t, c < 0x80 := by
  intro c hc
  have hd := h _ (List.mem_map_of_mem hc)
  unfold CodePoint.toAsciiLower at hd
  split at hd <;> omega

/-- No letter from beyond ASCII takes part in a word of ASCII that has no k. -/
theorem lower_eq_iff {t word : Text} (hword : ∀ d ∈ word, d < 0x80 ∧ d ≠ smallK) :
    t.lower = word ↔ t.toAsciiLower = word := by
  constructor
  · rintro rfl
    exact (lowerAfter_of_ascii (ascii_of_lowerAfter hword) false).symm
  · rintro rfl
    exact lowerAfter_of_ascii (ascii_of_toAsciiLower fun d hd => (hword d hd).1) false

end Text

end Wireframe
