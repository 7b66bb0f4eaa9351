import Wireframe.Element.Sample
import Wireframe.Page.Generator

/-!
# Settings and generators

A generator is built from options and, for what these leave open, from settings. So settings that
agree on what is left open build the same generator (`build_congr`), and where nothing is left open
any settings do. The settings that are in force when a page is made have no say in it.
-/
namespace Wireframe

namespace GeneratorOptions

/-- Settings agree on what the options leave open. -/
structure AgreeOn (options : GeneratorOptions) (s s' : Settings) : Prop where
  referenceWidth : options.referenceWidth = none → s.referenceWidth = s'.referenceWidth
  referenceHeight : options.referenceHeight = none → s.referenceHeight = s'.referenceHeight
  rowThreshold : options.rowThreshold = none → s.rowThreshold = s'.rowThreshold
  rowStrategy : options.rowStrategy = none → s.rowStrategy = s'.rowStrategy
  columnGap : options.columnGap = none → s.columnGap = s'.columnGap
  previewLimit : options.previewLimit = none → s.previewLimit = s'.previewLimit
  defaultPageName : options.defaultPageName = none → s.defaultPageName = s'.defaultPageName

/-- Whether every option is given, with whatever value. -/
def isComplete (options : GeneratorOptions) : Bool :=
  options.referenceWidth.isSome && options.referenceHeight.isSome && options.rowThreshold.isSome &&
    options.rowStrategy.isSome && options.columnGap.isSome && options.previewLimit.isSome &&
    options.defaultPageName.isSome

theorem AgreeOn.refl (options : GeneratorOptions) (s : Settings) : options.AgreeOn s s :=
  ⟨fun _ => rfl, fun _ => rfl, fun _ => rfl, fun _ => rfl, fun _ => rfl, fun _ => rfl, fun _ => rfl⟩

theorem agreeOn_of_isComplete {options : GeneratorOptions} (h : options.isComplete = true)
    (s s' : Settings) : options.AgreeOn s s' := by
  have hgiven {β : Type} {o : Option β} {P : Prop} (ho : o.isSome = true) (hnone : o = none) :
      P := by
    rw [hnone] at ho
    cases ho
  simp only [isComplete, Bool.and_eq_true] at h
  obtain ⟨⟨⟨⟨⟨⟨hwidth, hheight⟩, hthreshold⟩, hstrategy⟩, hgap⟩, hlimit⟩, hname⟩ := h
  exact ⟨hgiven hwidth, hgiven hheight, hgiven hthreshold, hgiven hstrategy, hgiven hgap,
    hgiven hlimit, hgiven hname⟩

end GeneratorOptions

namespace Generator

/-! ## Building -/

theorem getD_congr {β : Type} {o : Option β} {a b : β} (h : o = none → a = b) :
    o.getD a = o.getD b := by
  cases o with
  | none => exact h rfl
  | some c => rfl

theorem orElse_congr {β : Type} {o a b : Option β} (h : o = none → a = b) :
    (o <|> a) = (o <|> b) := by
  cases o with
  | none => rw [h rfl]
  | some c => rfl

section Congruence

variable {options : GeneratorOptions} {s s' : Settings} (h : options.AgreeOn s s')

include h

theorem canvasFor_congr : s.canvasFor options.referenceWidth options.referenceHeight =
    s'.canvasFor options.referenceWidth options.referenceHeight := by
  have hwidth : options.referenceWidth = none → s.canvas.width = s'.canvas.width := by
    intro hnone
    simp only [Settings.canvas, h.referenceWidth hnone]
  have hheight : options.referenceHeight = none → s.canvas.height = s'.canvas.height := by
    intro hnone
    simp only [Settings.canvas, h.referenceHeight hnone]
  rw [Settings.canvasFor, Settings.canvasFor, orElse_congr hwidth, orElse_congr hheight]

/-- Settings count only for what the options leave open. -/
theorem build_congr : build s options = build s' options := by
  rw [build, build, Settings.strategyFor_map_named, Settings.strategyFor_map_named,
    canvasFor_congr h, getD_congr h.rowStrategy, getD_congr h.rowThreshold,
    getD_congr h.columnGap, getD_congr h.previewLimit, getD_congr h.defaultPageName]

end Congruence

/-! ## Results -/

/-- The page that a generator makes under the settings `now`, after it was built under `built`. -/
def pageUnder (options : GeneratorOptions) (built now : Settings) (detections : List Detection)
    (given : Option Text) : Except Fault Page := do
  (← build built options).generateUnder now detections given

/-- The preview of a generator that was built under `built`. -/
def previewUnder (options : GeneratorOptions) (built : Settings) (detections : List Detection)
    (limit : Option Int) : Except Fault Text := do
  (← build built options).preview detections limit

theorem pageUnder_congr {options : GeneratorOptions} {built built' : Settings}
    (h : options.AgreeOn built built') (now now' : Settings) (detections : List Detection)
    (given : Option Text) :
    pageUnder options built now detections given =
      pageUnder options built' now' detections given := by
  rw [pageUnder, pageUnder, build_congr h]
  simp only [generateUnder_eq]

/-- **Options shut out the settings.** Where every option is given, pages and previews are the same
whatever the settings are when the generator is built and when it works. Where some are left open, a
generator that is built once works the same under whatever settings come into force later. -/
theorem results_shut_out_settings (options : GeneratorOptions) :
    (options.isComplete = true → ∀ built built' now now' : Settings,
      (∀ detections given, pageUnder options built now detections given =
        pageUnder options built' now' detections given) ∧
      ∀ detections limit, previewUnder options built detections limit =
        previewUnder options built' detections limit) ∧
    ∀ built now now' detections given, pageUnder options built now detections given =
      pageUnder options built now' detections given := by
  refine ⟨fun hcomplete built built' now now' => ?_, fun built now now' detections given => ?_⟩
  · have hagree := GeneratorOptions.agreeOn_of_isComplete hcomplete built built'
    refine ⟨fun detections given => pageUnder_congr hagree now now' detections given, ?_⟩
    intro detections limit
    rw [previewUnder, previewUnder, build_congr hagree]
  · exact pageUnder_congr (.refl options built) now now' detections given

section Unusable

/-- Every option is given, and all that can be is zero, negative or empty. -/
def emptyOptions : GeneratorOptions :=
  ⟨some .zero, some .zero, some .zero, some RowStrategy.anchored.name, some (-1), some (-5),
    some []⟩

/-- Settings that name no strategy. -/
def unusableSettings : Settings := { Settings.standard with rowStrategy := [] }

theorem build_unusableSettings : build unusableSettings {} = .error (.unknownStrategy []) := by
  have hparse : RowStrategy.parse [] = .error (.unknownStrategy []) := by
    rw [RowStrategy.parse, if_neg (by decide), if_neg (by decide)]
  rw [build, Settings.strategyFor_map_named]
  exact congrArg (· >>= _) hparse

/-- Settings under which nothing can be built do no harm where all options are given. -/
theorem results_shut_out_unusableSettings :
    build unusableSettings {} = .error (.unknownStrategy []) ∧ emptyOptions.isComplete = true ∧
      pageUnder emptyOptions unusableSettings unusableSettings loginForm none =
        pageUnder emptyOptions .standard .standard loginForm none ∧
      previewUnder emptyOptions unusableSettings loginForm none =
        previewUnder emptyOptions .standard loginForm none := by
  have hcomplete : emptyOptions.isComplete = true := rfl
  obtain ⟨hpages, hpreviews⟩ := (results_shut_out_settings emptyOptions).1 hcomplete
    unusableSettings .standard unusableSettings .standard
  exact ⟨build_unusableSettings, hcomplete, hpages loginForm none, hpreviews loginForm none⟩

end Unusable

end Generator

end Wireframe
