import Wireframe.Page.Generator
import Wireframe.Proofs.Layout.Rendering
import Wireframe.Proofs.Reading.Rows
import Wireframe.Proofs.Steps

/-!
# When there is a page

Two things keep detections from being shown: a canvas without one of its sides, and between the rows
of a page a gap that is too long to be written. A generator with both sides makes a preview of any
detections, and one without makes it only of none (`exists_preview_iff`); so it is with pages if the
gap can be written (`exists_generate_iff`). Whether there is a generator is a matter of the name of
the strategy (`exists_build_iff`).
-/
namespace Wireframe

namespace Canvas

/-- Neither side is beyond the range of numbers. -/
def HasSides (canvas : Canvas) : Prop := canvas.width.isSome ∧ canvas.height.isSome

instance (canvas : Canvas) : Decidable canvas.HasSides := instDecidableAnd

theorem HasSides.exists_eq_some {canvas : Canvas} (h : canvas.HasSides) :
    ∃ width height, canvas.width = some width ∧ canvas.height = some height := by
  obtain ⟨width, hwidth⟩ := Option.isSome_iff_exists.1 h.1
  obtain ⟨height, hheight⟩ := Option.isSome_iff_exists.1 h.2
  exact ⟨width, height, hwidth, hheight⟩

theorem not_hasSides_iff {canvas : Canvas} :
    ¬canvas.HasSides ↔ canvas.width = none ∨ canvas.height = none := by
  rw [HasSides, not_and_or, Option.not_isSome_iff_eq_none, Option.not_isSome_iff_eq_none]

theorem exists_fragment_iff {canvas : Canvas} (d : Detection) :
    (∃ fragment, canvas.fragment d = .ok fragment) ↔ canvas.HasSides := by
  constructor
  · rintro ⟨fragment, hfragment⟩
    by_contra h
    have hcode := fragment_code_of_missing (not_hasSides_iff.1 h) d
    rw [hfragment] at hcode
    cases hcode
  · intro h
    obtain ⟨width, height, hwidth, hheight⟩ := h.exists_eq_some
    have hcode := fragment_code hwidth hheight d
    cases hd : canvas.fragment d with
    | ok fragment => exact ⟨fragment, rfl⟩
    | error fault =>
      rw [hd] at hcode
      cases hcode

theorem exists_render_iff {canvas : Canvas} (tree : Layout Detection) :
    (∃ body, canvas.render tree = .ok body) ↔ tree.leaves = [] ∨ canvas.HasSides := by
  constructor
  · rintro ⟨body, hbody⟩
    obtain ⟨hleaves, -⟩ := Layout.render_eq_ok_iff.1 hbody
    cases hfirst : tree.leaves with
    | nil => exact .inl rfl
    | cons d rest =>
      obtain ⟨code, hcode⟩ := hleaves d (hfirst ▸ List.mem_cons_self)
      refine .inr (not_not.1 fun hsides => ?_)
      rw [fragment_code_of_missing (not_hasSides_iff.1 hsides)] at hcode
      cases hcode
  · intro h
    cases hrender : canvas.render tree with
    | ok body => exact ⟨body, rfl⟩
    | error fault =>
      obtain ⟨hmissing, hleaves⟩ := missing_of_render_eq_error hrender
      rcases h with hnone | hsides
      · exact absurd hnone hleaves
      · exact absurd hsides (not_hasSides_iff.2 hmissing)

/-- There is one fault alone. -/
theorem fault_of_render_eq_error {canvas : Canvas} {tree : Layout Detection} {fault : Fault}
    (h : canvas.render tree = .error fault) : fault = .wholeTooLarge := by
  obtain ⟨hmissing, -⟩ := missing_of_render_eq_error h
  obtain ⟨d, -, hleaf⟩ := Layout.exists_leaf_of_render_eq_error h
  rw [fragment_code_of_missing hmissing] at hleaf
  exact (Except.error.inj hleaf).symm

end Canvas

namespace Generator

/-! ## Generators -/

section Build

variable {settings : Settings} {options : GeneratorOptions} {g : Generator}
  (h : build settings options = .ok g)

include h

theorem canvas_of_build :
    g.canvas = settings.canvasFor options.referenceWidth options.referenceHeight := by
  obtain ⟨strategy, -, h⟩ := bind_eq_ok h
  cases h
  rfl

theorem columnGap_of_build : g.columnGap = options.columnGap.getD settings.columnGap := by
  obtain ⟨strategy, -, h⟩ := bind_eq_ok h
  cases h
  rfl

end Build

theorem strategy_of_build_eq_error {settings : Settings} {options : GeneratorOptions}
    {fault : Fault} (h : build settings options = .error fault) :
    ∃ given, fault = .unknownStrategy given := by
  rw [build, Settings.strategyFor_map_named] at h
  unfold RowStrategy.parse at h
  split at h
  · cases h
  · split at h
    · cases h
    · cases h
      exact ⟨_, rfl⟩

theorem exists_build_iff (settings : Settings) (options : GeneratorOptions) :
    (∃ g, build settings options = .ok g) ↔
      ∃ strategy, RowStrategy.parse (options.rowStrategy.getD settings.rowStrategy) =
        .ok strategy := by
  rw [build, Settings.strategyFor_map_named]
  constructor
  · rintro ⟨g, hg⟩
    obtain ⟨strategy, hstrategy, -⟩ := bind_eq_ok hg
    exact ⟨strategy, hstrategy⟩
  · rintro ⟨strategy, hstrategy⟩
    rw [hstrategy]
    exact ⟨_, rfl⟩

/-! ## Pages and previews -/

theorem leaves_rows_eq_nil_iff (g : Generator) (detections : List Detection) :
    (Layout.ofRows (g.rows detections) g.columnGap).leaves = [] ↔ detections = [] := by
  have hleaves : (Layout.ofRows (g.rows detections) g.columnGap).leaves =
      (g.rows detections).flatten := by
    rw [Layout.ofRows, Layout.leaves, Layout.leavesOfAll_map_ofRow, List.flatten_filter_not_isEmpty]
  have hperm := readingOrder_perm id g.rowThreshold g.rowStrategy detections
  rw [hleaves]
  constructor
  · intro h
    rw [readingOrder, ← rows, h] at hperm
    exact hperm.nil_eq.symm
  · rintro rfl
    exact hperm.eq_nil

/-- The widgets of a page are rendered first, and then the gap is looked at. -/
theorem body_eq (g : Generator) (layout : Layout Detection) :
    g.body layout = g.canvas.render layout >>= fun source =>
      if Numeral.isWritable g.columnGap then .ok source else .error .tooManyDigits := rfl

theorem body_eq_ok_iff {g : Generator} {layout : Layout Detection} {source : Text} :
    g.body layout = .ok source ↔
      g.canvas.render layout = .ok source ∧ Numeral.isWritable g.columnGap = true := by
  rw [body_eq]
  constructor
  · intro h
    obtain ⟨rendered, hrendered, h⟩ := bind_eq_ok h
    split at h
    · next hgap =>
      cases h
      exact ⟨hrendered, hgap⟩
    · cases h
  · rintro ⟨hrendered, hgap⟩
    rw [hrendered]
    exact if_pos hgap

/-- A page is its widgets in the scaffold, with the counts of what it was made from. -/
theorem generate_eq_ok_iff {g : Generator} {detections : List Detection} {given : Option Text}
    {page : Page} :
    g.generate detections given = .ok page ↔
      ∃ body, g.canvas.render (Layout.ofRows (g.rows detections) g.columnGap) = .ok body ∧
        Numeral.isWritable g.columnGap = true ∧
        page = ⟨g.pageName given, Page.enclose (g.pageName given) body g.defaultPageName,
          detections.length, (g.rows detections).length⟩ := by
  rw [generate]
  constructor
  · intro h
    obtain ⟨body, hbody, h⟩ := bind_eq_ok h
    obtain ⟨hrender, hgap⟩ := body_eq_ok_iff.1 hbody
    exact ⟨body, hrender, hgap, (Except.ok.inj h).symm⟩
  · rintro ⟨body, hrender, hgap, rfl⟩
    simp only [body_eq_ok_iff.2 ⟨hrender, hgap⟩]
    rfl

theorem exists_generate_iff (g : Generator) (detections : List Detection) (given : Option Text) :
    (∃ page, g.generate detections given = .ok page) ↔
      (detections = [] ∨ g.canvas.HasSides) ∧ Numeral.isWritable g.columnGap = true := by
  rw [← leaves_rows_eq_nil_iff g, ← Canvas.exists_render_iff]
  simp only [generate_eq_ok_iff]
  constructor
  · rintro ⟨page, body, hbody, hgap, -⟩
    exact ⟨⟨body, hbody⟩, hgap⟩
  · rintro ⟨⟨body, hbody⟩, hgap⟩
    exact ⟨_, body, hbody, hgap, rfl⟩

/-- What is missing on the canvas comes out before the gap is looked at. -/
theorem fault_of_generate_eq_error {g : Generator} {detections : List Detection}
    {given : Option Text} {fault : Fault} (h : g.generate detections given = .error fault) :
    (fault = .wholeTooLarge ∧ ¬(detections = [] ∨ g.canvas.HasSides)) ∨
      (fault = .tooManyDigits ∧ (detections = [] ∨ g.canvas.HasSides) ∧
        Numeral.isWritable g.columnGap = false) := by
  rw [← leaves_rows_eq_nil_iff g, ← Canvas.exists_render_iff]
  rw [generate] at h
  rcases bind_eq_error h with hbody | ⟨body, -, h⟩
  · rw [body_eq] at hbody
    rcases bind_eq_error hbody with hrender | ⟨source, hrender, hgap⟩
    · refine .inl ⟨Canvas.fault_of_render_eq_error hrender, ?_⟩
      rintro ⟨source, hsource⟩
      rw [hrender] at hsource
      cases hsource
    · split at hgap
      · cases hgap
      · next hlong =>
        exact .inr ⟨(Except.error.inj hgap).symm, ⟨source, hrender⟩, Bool.eq_false_iff.2 hlong⟩
  · cases h

theorem exists_preview_iff (g : Generator) (detections : List Detection) (limit : Option Int) :
    (∃ source, g.preview detections limit = .ok source) ↔
      detections.take (limit.getD g.previewLimit).toNat = [] ∨ g.canvas.HasSides := by
  rw [preview]
  constructor
  · rintro ⟨source, hsource⟩
    obtain ⟨fragments, hfragments, -⟩ := bind_eq_ok hsource
    cases hfirst : detections.take (limit.getD g.previewLimit).toNat with
    | nil => exact .inl rfl
    | cons d rest =>
      rw [hfirst] at hfragments
      cases mapM_eq_ok_iff.1 hfragments with
      | cons hfragment _ => exact .inr ((Canvas.exists_fragment_iff d).1 ⟨_, hfragment⟩)
  · rintro (hnone | hsides)
    · rw [hnone]
      exact ⟨_, rfl⟩
    · have heach : ∀ d ∈ detections.take (limit.getD g.previewLimit).toNat,
          ∃ fragment, g.canvas.fragment d = .ok fragment :=
        fun d _ => (Canvas.exists_fragment_iff d).2 hsides
      obtain ⟨fragments, hfragments, -⟩ := exists_mapM_eq_ok heach
      rw [hfragments]
      exact ⟨_, rfl⟩

end Generator

end Wireframe
