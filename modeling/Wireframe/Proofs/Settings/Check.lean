import Wireframe.Proofs.Number.Order
import Wireframe.Proofs.Page.Existence
import Wireframe.Proofs.Taxonomy.NormalForm
import Wireframe.Settings.Basic

/-!
# What the check of settings accepts

Two readers know the names of the strategies. The check wants a name as it is spelled, in letters of
any case (`check_eq_ok_iff`); the parser takes it with blanks around it too
(`RowStrategy.parse_eq_ok_iff`). So what the check accepts can be parsed, and the two part over
names with blanks alone (`check_strategy_iff`).
-/
namespace Wireframe

namespace CodePoint

/-- Neither letter of a pair is a blank. -/
theorem isBlank_toAsciiLower (c : Nat) : isBlank (toAsciiLower c) = isBlank c := by
  have hletter {c : Nat} (hfirst : 0x41 ≤ c) (hlast : c ≤ 0x7A) : isBlank c = false := by
    simp [isBlank, isWhiteSpace, within]
    omega
  refine toAsciiLower_induction ?_ c
  intro c hfirst hlast
  rw [hletter (by omega) (by omega), hletter hfirst (by omega)]

end CodePoint

/-! ## Names of strategies -/

namespace RowStrategy

/-- The text is the name of the strategy, but for the case of the letters of ASCII. -/
def IsSpelled (strategy : RowStrategy) (given : Text) : Prop :=
  given.toAsciiLower = strategy.name

instance (strategy : RowStrategy) (given : Text) : Decidable (strategy.IsSpelled given) :=
  instDecidableEqList _ _

variable {strategy : RowStrategy} {given : Text}

/-- No name has the k, which a letter from beyond ASCII becomes in lower case. -/
theorem lower_eq_name_iff : given.lower = strategy.name ↔ strategy.IsSpelled given := by
  refine Text.lower_eq_iff ?_
  cases strategy <;> decide

theorem parse_eq_ok_iff : parse given = .ok strategy ↔ strategy.IsSpelled given.strip := by
  rw [← lower_eq_name_iff]
  constructor
  · intro h
    unfold parse at h
    split at h
    next hname =>
      cases h
      exact hname
    next =>
      split at h
      next hname =>
        cases h
        exact hname
      next => cases h
  · intro h
    cases strategy with
    | drifting => rw [parse, if_pos h]
    | anchored =>
      have hother : given.strip.lower ≠ drifting.name := by
        rw [h]
        decide
      rw [parse, if_neg hother, if_pos h]

theorem parse_eq_error (h : ¬∃ strategy : RowStrategy, strategy.IsSpelled given.strip) :
    parse given = .error (.unknownStrategy given) := by
  rw [parse, if_neg fun hname => h ⟨drifting, lower_eq_name_iff.1 hname⟩,
    if_neg fun hname => h ⟨anchored, lower_eq_name_iff.1 hname⟩]

/-- A name has no blanks. -/
theorem IsSpelled.strip_eq_self (h : strategy.IsSpelled given) : given.strip = given := by
  have hname : ∀ c ∈ strategy.name, CodePoint.isBlank c = false := by
    cases strategy <;> decide
  have hgiven : ∀ c ∈ given, CodePoint.isBlank c = false := by
    intro c hc
    rw [← CodePoint.isBlank_toAsciiLower]
    exact hname _ (h ▸ List.mem_map_of_mem hc)
  exact Text.trimBy_eq_self (fun c hc => hgiven c (List.mem_of_mem_head? hc))
    fun c hc => hgiven c (List.mem_of_mem_getLast? hc)

end RowStrategy

namespace Settings

/-! ## Settings -/

theorem strategyNames_contains_iff {given : Text} :
    strategyNames.contains given.lower = true ↔
      ∃ strategy : RowStrategy, strategy.IsSpelled given := by
  rw [List.contains_iff_mem]
  constructor
  · intro h
    simp only [strategyNames, List.mem_cons, List.not_mem_nil, or_false] at h
    rcases h with h | h
    · exact ⟨.drifting, RowStrategy.lower_eq_name_iff.1 h⟩
    · exact ⟨.anchored, RowStrategy.lower_eq_name_iff.1 h⟩
  · rintro ⟨strategy, hstrategy⟩
    rw [RowStrategy.lower_eq_name_iff.2 hstrategy]
    cases strategy <;> decide

/-- What the check asks of each setting. A threshold that is not a number passes. -/
structure IsAccepted (s : Settings) : Prop where
  width : 0 < s.referenceWidth
  height : 0 < s.referenceHeight
  threshold : s.rowThreshold = .nan ∨ s.rowThreshold.IsFraction
  strategy : ∃ strategy : RowStrategy, strategy.IsSpelled s.rowStrategy
  confidence : s.minConfidence = .nan ∨ s.minConfidence.IsFraction
  limit : 0 ≤ s.previewLimit
  gap : 0 ≤ s.columnGap

theorem sides_eq_false {s : Settings} (hwidth : 0 < s.referenceWidth)
    (hheight : 0 < s.referenceHeight) :
    (decide (s.referenceWidth ≤ 0) || decide (s.referenceHeight ≤ 0)) = false := by
  simp
  omega

theorem check_eq_ok_iff {s : Settings} : s.check = .ok () ↔ s.IsAccepted := by
  constructor
  · intro h
    unfold check at h
    split at h
    · cases h
    next hsides =>
    split at h
    · cases h
    next hthreshold =>
    split at h
    · cases h
    next hstrategy =>
    split at h
    · cases h
    next hconfidence =>
    split at h
    · cases h
    next hlimit =>
      simp only [Bool.or_eq_true, decide_eq_true_eq, not_or] at hsides hlimit
      rw [Bool.not_eq_true, Binary64.outside_eq_false_iff] at hthreshold hconfidence
      rw [Bool.not_eq_true, Bool.not_eq_false', strategyNames_contains_iff] at hstrategy
      exact ⟨by omega, by omega, hthreshold, hstrategy, hconfidence, by omega, by omega⟩
  · intro h
    have hlimit : (decide (s.previewLimit < 0) || decide (s.columnGap < 0)) = false := by
      have hlimit := h.limit
      have hgap := h.gap
      simp
      omega
    rw [check, sides_eq_false h.width h.height, Binary64.outside_eq_false_iff.2 h.threshold,
      strategyNames_contains_iff.2 h.strategy, Binary64.outside_eq_false_iff.2 h.confidence, hlimit]
    rfl

/-- Sides and threshold are looked at before the strategy, and nothing else is. -/
theorem check_eq_error {s : Settings} (hwidth : 0 < s.referenceWidth)
    (hheight : 0 < s.referenceHeight)
    (hthreshold : s.rowThreshold = .nan ∨ s.rowThreshold.IsFraction)
    (hstrategy : ¬∃ strategy : RowStrategy, strategy.IsSpelled s.rowStrategy) :
    s.check = .error (.unknownConfiguredStrategy s.rowStrategy) := by
  rw [← strategyNames_contains_iff, Bool.not_eq_true] at hstrategy
  rw [check, sides_eq_false hwidth hheight, Binary64.outside_eq_false_iff.2 hthreshold, hstrategy]
  rfl

/-! ## The check and the parser -/

/-- The settings with another text for the strategy. -/
def withStrategy (s : Settings) (given : Text) : Settings := { s with rowStrategy := given }

section Strategy

variable {s : Settings} (h : s.check = .ok ())

include h

theorem check_withStrategy_iff (given : Text) :
    (s.withStrategy given).check = .ok () ↔
      ∃ strategy : RowStrategy, strategy.IsSpelled given := by
  have haccepted := check_eq_ok_iff.1 h
  rw [check_eq_ok_iff]
  exact ⟨fun h => h.strategy, fun hgiven => { haccepted with strategy := hgiven }⟩

theorem check_withStrategy_eq_error {given : Text}
    (hgiven : ¬∃ strategy : RowStrategy, strategy.IsSpelled given) :
    (s.withStrategy given).check = .error (.unknownConfiguredStrategy given) := by
  have haccepted := check_eq_ok_iff.1 h
  exact check_eq_error (s := s.withStrategy given) haccepted.width haccepted.height
    haccepted.threshold hgiven

/-- **What the check and the parser make of a strategy.** In settings that are accepted otherwise,
the check takes the names in letters of any case, and the parser takes them with blanks around them
too. A generator can be built just if the strategy can be parsed, which it can when the check takes
it. The two agree on a text exactly if it has no blanks around a name. -/
theorem check_strategy_iff (given : Text) :
    ((s.withStrategy given).check = .ok () ↔
      ∃ strategy : RowStrategy, strategy.IsSpelled given) ∧
    (∀ strategy, RowStrategy.parse given = .ok strategy ↔ strategy.IsSpelled given.strip) ∧
    ((∃ g, Generator.build (s.withStrategy given) {} = .ok g) ↔
      ∃ strategy, RowStrategy.parse given = .ok strategy) ∧
    ((s.withStrategy given).check = .ok () → ∃ strategy, RowStrategy.parse given = .ok strategy) ∧
    (((s.withStrategy given).check = .ok () ↔ ∃ strategy, RowStrategy.parse given = .ok strategy) ↔
      ((∃ strategy, RowStrategy.parse given = .ok strategy) → given.strip = given)) ∧
    ((s.withStrategy given).check ≠ .ok () →
      (s.withStrategy given).check = .error (.unknownConfiguredStrategy given)) ∧
    ((∀ strategy, RowStrategy.parse given ≠ .ok strategy) →
      RowStrategy.parse given = .error (.unknownStrategy given)) := by
  have hcheck := check_withStrategy_iff h given
  have hparse : (∃ strategy, RowStrategy.parse given = .ok strategy) ↔
      ∃ strategy : RowStrategy, strategy.IsSpelled given.strip :=
    exists_congr fun _ => RowStrategy.parse_eq_ok_iff
  have hsame : (∃ strategy : RowStrategy, strategy.IsSpelled given) → given.strip = given :=
    fun ⟨_, hstrategy⟩ => hstrategy.strip_eq_self
  refine ⟨hcheck, fun _ => RowStrategy.parse_eq_ok_iff, ?_, ?_, ?_, ?_, ?_⟩
  · exact Generator.exists_build_iff (s.withStrategy given) {}
  · intro hok
    have hspelled := hcheck.1 hok
    rw [hparse, hsame hspelled]
    exact hspelled
  · rw [hcheck, hparse]
    constructor
    · exact fun hagree hstripped => hsame (hagree.2 hstripped)
    · intro hstrip
      constructor
      · intro hspelled
        rw [hsame hspelled]
        exact hspelled
      · intro hstripped
        have hself := hstrip hstripped
        rw [hself] at hstripped
        exact hstripped
  · intro hrefused
    exact check_withStrategy_eq_error h fun hspelled => hrefused (hcheck.2 hspelled)
  · intro hunknown
    refine RowStrategy.parse_eq_error fun ⟨strategy, hstripped⟩ => ?_
    exact hunknown strategy (RowStrategy.parse_eq_ok_iff.2 hstripped)

end Strategy

theorem check_standard : Settings.standard.check = .ok () :=
  check_eq_ok_iff.2 ⟨by decide, by decide, .inr (by decide +kernel), ⟨.drifting, by decide⟩,
    .inr (by decide +kernel), by decide, by decide⟩

/-- Letters of any case are taken by both. -/
theorem check_strategy_capitals :
    Settings.standard.check = .ok () ∧ (standard.withStrategy "ANCHORED").check = .ok () ∧
      RowStrategy.parse "ANCHORED" = .ok .anchored ∧
      ∃ g, Generator.build (standard.withStrategy "ANCHORED") {} = .ok g := by
  obtain ⟨hcheck, hparse, hbuild, -⟩ := check_strategy_iff check_standard "ANCHORED"
  have hspelled : RowStrategy.anchored.IsSpelled "ANCHORED" := by decide +kernel
  have hanchored : RowStrategy.parse "ANCHORED" = .ok .anchored := by
    rw [hparse, hspelled.strip_eq_self]
    exact hspelled
  exact ⟨check_standard, hcheck.2 ⟨_, hspelled⟩, hanchored, hbuild.2 ⟨_, hanchored⟩⟩

/-- **The check refuses a strategy that can be parsed**, for the blank before its name. -/
theorem check_refuses_blank :
    Settings.standard.check = .ok () ∧
      RowStrategy.parse " drifting" = .ok .drifting ∧
      (∃ g, Generator.build (standard.withStrategy " drifting") {} = .ok g) ∧
      (standard.withStrategy " drifting").check =
        .error (.unknownConfiguredStrategy " drifting") := by
  have hparse : RowStrategy.parse " drifting" = .ok .drifting :=
    RowStrategy.parse_eq_ok_iff.2 (by decide +kernel)
  refine ⟨check_standard, hparse, ?_, ?_⟩
  · exact (Generator.exists_build_iff (standard.withStrategy " drifting") {}).2 ⟨_, hparse⟩
  · refine check_withStrategy_eq_error check_standard ?_
    rintro ⟨strategy, hspelled⟩
    revert hspelled
    cases strategy <;> decide +kernel

end Settings

end Wireframe
