import Wireframe.Proofs.Number.Rounding
import Wireframe.Proofs.Settings.Check
import Wireframe.Proofs.Settings.Independence

/-!
# What the check of settings guards against

Settings are safe when their numbers are in range and every page can be made under them
(`Settings.IsSafe`). The check asks for less in three ways (`check_safe_iff`). It refuses a number
that is below zero or above one, and what is not a number is neither. It has no upper bound for the
sides of the canvas, while a side beyond the range of numbers leaves no page of any detection. And
it has none for the gap, while with a gap of too many digits to be written there is no page at all.
-/
namespace Wireframe

namespace Settings

/-- Numbers in range, a canvas with an extent, and a page of any detections under any name, whatever
settings are in force when it is made. -/
structure IsSafe (s : Settings) : Prop where
  threshold : s.rowThreshold.IsFraction
  confidence : s.minConfidence.IsFraction
  width : 0 < s.referenceWidth
  height : 0 < s.referenceHeight
  limit : 0 ≤ s.previewLimit
  gap : 0 ≤ s.columnGap
  page : ∀ now detections given, ∃ page, Generator.pageUnder {} s now detections given = .ok page

/-- Both sides of the canvas stay below the whole numbers that are too great for a binary64. -/
def SidesFit (s : Settings) : Prop :=
  s.referenceWidth.natAbs < Binary64.wholeLimit ∧ s.referenceHeight.natAbs < Binary64.wholeLimit

instance (s : Settings) : Decidable s.SidesFit := instDecidableAnd

/-- The gap has no more digits than can be written. -/
def GapFits (s : Settings) : Prop := s.columnGap.natAbs < Numeral.writableLimit

instance (s : Settings) : Decidable s.GapFits := Nat.decLt _ _

theorem hasSides_canvas_iff (s : Settings) : s.canvas.HasSides ↔ s.SidesFit := by
  rw [Canvas.HasSides, canvas, Binary64.isSome_ofInt?_iff, Binary64.isSome_ofInt?_iff]
  rfl

section Pages

variable {s now : Settings} {g : Generator} (hg : Generator.build s {} = .ok g)
  {detections : List Detection} {given : Option Text}

include hg

theorem pageUnder_eq_generate :
    Generator.pageUnder {} s now detections given = g.generate detections given := by
  rw [Generator.pageUnder, hg]
  rfl

/-- A generator that the settings alone make has their canvas. -/
theorem canvas_of_build_eq : g.canvas = s.canvas :=
  (Generator.canvas_of_build hg).trans s.canvasFor_none

theorem exists_pageUnder_iff :
    (∃ page, Generator.pageUnder {} s now detections given = .ok page) ↔
      (detections = [] ∨ s.SidesFit) ∧ s.GapFits := by
  rw [pageUnder_eq_generate hg, Generator.exists_generate_iff, canvas_of_build_eq hg,
    hasSides_canvas_iff, Generator.columnGap_of_build hg, Numeral.isWritable_iff]
  exact Iff.rfl

theorem fault_of_pageUnder_eq_error {fault : Fault}
    (h : Generator.pageUnder {} s now detections given = .error fault) :
    (fault = .wholeTooLarge ∧ ¬(detections = [] ∨ s.SidesFit)) ∨
      (fault = .tooManyDigits ∧ (detections = [] ∨ s.SidesFit) ∧ ¬s.GapFits) := by
  rw [pageUnder_eq_generate hg] at h
  have hfault := Generator.fault_of_generate_eq_error h
  rw [canvas_of_build_eq hg, hasSides_canvas_iff, Generator.columnGap_of_build hg,
    ← Bool.not_eq_true, Numeral.isWritable_iff] at hfault
  exact hfault

end Pages

section Check

variable {s : Settings} (h : s.check = .ok ())

include h

theorem exists_build_of_check : ∃ g, Generator.build s {} = .ok g := by
  obtain ⟨strategy, hspelled⟩ := (check_eq_ok_iff.1 h).strategy
  refine (Generator.exists_build_iff s {}).2 ⟨strategy, ?_⟩
  rw [RowStrategy.parse_eq_ok_iff]
  show strategy.IsSpelled s.rowStrategy.strip
  rw [hspelled.strip_eq_self]
  exact hspelled

/-- **What accepted settings are good for.** The two thresholds are between zero and one or not a
number, the other numbers are in range, and a generator can be built. It makes a page exactly if
there are no detections or both sides of the canvas are within the range of numbers, and if the gap
can be written; where it makes none it is for the first of these that fails. So accepted settings
are safe just if neither threshold is the value that is not a number, neither side is beyond the
range and the gap has not too many digits. -/
theorem check_safe_iff :
    (s.IsSafe ↔
      s.rowThreshold ≠ .nan ∧ s.minConfidence ≠ .nan ∧ s.SidesFit ∧ s.GapFits) ∧
    (s.rowThreshold = .nan ∨ s.rowThreshold.IsFraction) ∧
    (s.minConfidence = .nan ∨ s.minConfidence.IsFraction) ∧
    (0 < s.referenceWidth ∧ 0 < s.referenceHeight ∧ 0 ≤ s.previewLimit ∧ 0 ≤ s.columnGap) ∧
    (∃ g, Generator.build s {} = .ok g) ∧
    ∀ now detections given,
      ((∃ page, Generator.pageUnder {} s now detections given = .ok page) ↔
        (detections = [] ∨ s.SidesFit) ∧ s.GapFits) ∧
      ∀ fault, Generator.pageUnder {} s now detections given = .error fault →
        (fault = .wholeTooLarge ∧ ¬(detections = [] ∨ s.SidesFit)) ∨
          (fault = .tooManyDigits ∧ (detections = [] ∨ s.SidesFit) ∧ ¬s.GapFits) := by
  have haccepted := check_eq_ok_iff.1 h
  obtain ⟨g, hg⟩ := exists_build_of_check h
  refine ⟨⟨fun hsafe => ?_, ?_⟩, haccepted.threshold, haccepted.confidence,
    ⟨haccepted.width, haccepted.height, haccepted.limit, haccepted.gap⟩, ⟨g, hg⟩, ?_⟩
  · refine ⟨hsafe.threshold.ne_nan, hsafe.confidence.ne_nan, ?_⟩
    obtain ⟨hnone | hfit, hgap⟩ := (exists_pageUnder_iff hg).1 (hsafe.page .standard loginForm none)
    · cases hnone
    · exact ⟨hfit, hgap⟩
  · rintro ⟨hthreshold, hconfidence, hfit, hgap⟩
    exact {
      threshold := haccepted.threshold.resolve_left hthreshold
      confidence := haccepted.confidence.resolve_left hconfidence
      width := haccepted.width
      height := haccepted.height
      limit := haccepted.limit
      gap := haccepted.gap
      page := fun now detections given => (exists_pageUnder_iff hg).2 ⟨.inr hfit, hgap⟩ }
  · intro now detections given
    exact ⟨exists_pageUnder_iff hg, fun fault => fault_of_pageUnder_eq_error hg⟩

end Check

theorem check_safe_standard : Settings.standard.check = .ok () ∧ Settings.standard.IsSafe := by
  obtain ⟨hsafe, -⟩ := check_safe_iff check_standard
  exact ⟨check_standard, hsafe.2
    ⟨by decide +kernel, by decide +kernel, by decide +kernel, by decide +kernel⟩⟩

section Unsafe

/-- The settings with another threshold for rows. -/
def withThreshold (s : Settings) (threshold : Binary64) : Settings :=
  { s with rowThreshold := threshold }

/-- The settings with another width of the canvas. -/
def withWidth (s : Settings) (width : Int) : Settings := { s with referenceWidth := width }

/-- The settings with another gap. -/
def withGap (s : Settings) (gap : Int) : Settings := { s with columnGap := gap }

/-- The least gap that has too many digits. -/
def overlongGap : Int := Numeral.writableLimit

theorem check_withThreshold_nan {s : Settings} (h : s.check = .ok ()) :
    (s.withThreshold .nan).check = .ok () := by
  have haccepted := check_eq_ok_iff.1 h
  exact check_eq_ok_iff.2 { haccepted with threshold := .inl rfl }

theorem check_withWidth {s : Settings} (h : s.check = .ok ()) {width : Int} (hwidth : 0 < width) :
    (s.withWidth width).check = .ok () := by
  have haccepted := check_eq_ok_iff.1 h
  exact check_eq_ok_iff.2 { haccepted with width := hwidth }

theorem check_withGap {s : Settings} (h : s.check = .ok ()) {gap : Int} (hgap : 0 ≤ gap) :
    (s.withGap gap).check = .ok () := by
  have haccepted := check_eq_ok_iff.1 h
  exact check_eq_ok_iff.2 { haccepted with gap := hgap }

theorem check_wholeLimit : (standard.withWidth Binary64.wholeLimit).check = .ok () :=
  check_withWidth check_standard (by decide +kernel)

theorem check_overlongGap : (standard.withGap overlongGap).check = .ok () :=
  check_withGap check_standard (by decide +kernel)

/-- On a canvas that is too wide no detection has a page. -/
theorem pageUnder_withWidth_eq_error (now : Settings) :
    Generator.pageUnder {} (standard.withWidth Binary64.wholeLimit) now loginForm none =
      .error .wholeTooLarge := by
  have hvast : ¬(loginForm = [] ∨ (standard.withWidth Binary64.wholeLimit).SidesFit) := by
    rintro (hnone | hfit)
    · cases hnone
    · exact absurd hfit (by decide +kernel)
  obtain ⟨g, hg⟩ := exists_build_of_check check_wholeLimit
  cases hpage :
    Generator.pageUnder {} (standard.withWidth Binary64.wholeLimit) now loginForm none with
  | ok page => exact absurd ((exists_pageUnder_iff hg).1 ⟨page, hpage⟩).1 hvast
  | error fault =>
    rcases fault_of_pageUnder_eq_error hg hpage with ⟨rfl, -⟩ | ⟨-, hfit, -⟩
    · rfl
    · exact absurd hfit hvast

/-- With a gap that is too long there is not even the page of no detections. -/
theorem pageUnder_withGap_eq_error (now : Settings) :
    Generator.pageUnder {} (standard.withGap overlongGap) now [] none = .error .tooManyDigits := by
  have hlong : ¬(standard.withGap overlongGap).GapFits := by decide +kernel
  obtain ⟨g, hg⟩ := exists_build_of_check check_overlongGap
  cases hpage : Generator.pageUnder {} (standard.withGap overlongGap) now [] none with
  | ok page => exact absurd ((exists_pageUnder_iff hg).1 ⟨page, hpage⟩).2 hlong
  | error fault =>
    rcases fault_of_pageUnder_eq_error hg hpage with ⟨-, hvast⟩ | ⟨rfl, -⟩
    · exact absurd (.inl rfl) hvast
    · rfl

/-- **The check lets unsafe settings pass**: a threshold that is not a number, a canvas on which no
length can be measured, and a gap that cannot be written. -/
theorem check_accepts_unsafe :
    ((standard.withThreshold .nan).check = .ok () ∧
      ¬(standard.withThreshold .nan).rowThreshold.IsFraction ∧
      ¬(standard.withThreshold .nan).IsSafe) ∧
    ((standard.withWidth Binary64.wholeLimit).check = .ok () ∧
      Generator.pageUnder {} (standard.withWidth Binary64.wholeLimit) .standard loginForm none =
        .error .wholeTooLarge ∧
      ¬(standard.withWidth Binary64.wholeLimit).IsSafe) ∧
    (standard.withGap overlongGap).check = .ok () ∧
      Generator.pageUnder {} (standard.withGap overlongGap) .standard [] none =
        .error .tooManyDigits ∧
      ¬(standard.withGap overlongGap).IsSafe := by
  have hnan : ¬(standard.withThreshold .nan).rowThreshold.IsFraction :=
    fun h => h.ne_nan rfl
  have hvast := pageUnder_withWidth_eq_error .standard
  have hlong := pageUnder_withGap_eq_error .standard
  refine ⟨⟨check_withThreshold_nan check_standard, hnan, fun h => hnan h.threshold⟩,
    ⟨check_wholeLimit, hvast, fun h => ?_⟩, check_overlongGap, hlong, fun h => ?_⟩
  · obtain ⟨page, hpage⟩ := h.page .standard loginForm none
    rw [hvast] at hpage
    cases hpage
  · obtain ⟨page, hpage⟩ := h.page .standard [] none
    rw [hlong] at hpage
    cases hpage

end Unsafe

end Settings

end Wireframe
