import Wireframe.Proofs.Page.Fidelity
import Wireframe.Proofs.Widget.Lines

/-!
# Previews can be taken apart

The widgets of a preview are its passages: blank lines stand between them and nowhere else, whatever
they show. A detection without a widget takes one of the places that the limit leaves, and no blank
line. So a preview goes on where one with a lower limit ends (`preview_passages`).
-/
namespace Wireframe

namespace Fragment

/-- The sources of those that have one, in order. -/
def codes (fragments : List Fragment) : List Text := (fragments.map (·.code)).filter (!·.isEmpty)

theorem codes_eq (fragments : List Fragment) :
    codes fragments = (fragments.filter (!·.isEmpty)).map (·.code) := List.filter_map

theorem codes_append (fragments more : List Fragment) :
    codes (fragments ++ more) = codes fragments ++ codes more := by
  rw [codes, List.map_append, List.filter_append]
  rfl

end Fragment

namespace Canvas

variable {canvas : Canvas} {d : Detection} {f : Fragment} (h : canvas.fragment d = .ok f)

include h

theorem isPassage_of_fragment : f.code.IsPassage := by
  obtain ⟨width, height, hcode⟩ := exists_leafText_of_fragment_eq_ok h
  rw [hcode]
  exact Widget.isPassage_source _ d.kind

theorem code_eq_nil_iff : f.code = [] ↔ d.isShown = false := by
  obtain ⟨width, height, hcode⟩ := exists_leafText_of_fragment_eq_ok h
  rw [hcode]
  exact leafText_eq_nil_iff width height d

end Canvas

namespace Generator

variable {g : Generator} {detections : List Detection}

theorem preview_eq_ok_iff {limit : Option Int} {source : Text} :
    g.preview detections limit = .ok source ↔
      ∃ fragments, (detections.take (limit.getD g.previewLimit).toNat).mapM g.canvas.fragment =
        .ok fragments ∧ source = .join "\n\n" (Fragment.codes fragments) := by
  rw [preview]
  constructor
  · intro h
    obtain ⟨fragments, hfragments, h⟩ := bind_eq_ok h
    rw [← Fragment.codes_eq] at h
    exact ⟨fragments, hfragments, (Except.ok.inj h).symm⟩
  · rintro ⟨fragments, hfragments, rfl⟩
    rw [hfragments, Fragment.codes_eq]
    rfl

theorem isPassage_of_mem_codes {canvas : Canvas} {fragments : List Fragment}
    (h : detections.mapM canvas.fragment = .ok fragments) :
    ∀ code ∈ Fragment.codes fragments, code.IsPassage := by
  intro code hcode
  obtain ⟨f, hf, rfl⟩ := List.mem_map.1 (List.mem_of_mem_filter hcode)
  obtain ⟨d, -, hfragment⟩ := exists_of_forall₂ (mapM_eq_ok_iff.1 h) f hf
  exact Canvas.isPassage_of_fragment hfragment

/-- The passages of a preview are the sources that were joined. -/
theorem passages_of_preview_eq_ok {limit : Option Int} {source : Text}
    (h : g.preview detections limit = .ok source) :
    ∃ fragments, (detections.take (limit.getD g.previewLimit).toNat).mapM g.canvas.fragment =
        .ok fragments ∧
      (Fragment.codes fragments = [] → source = []) ∧
      (Fragment.codes fragments ≠ [] → source.passages = Fragment.codes fragments) := by
  obtain ⟨fragments, hfragments, rfl⟩ := preview_eq_ok_iff.1 h
  refine ⟨fragments, hfragments, ?_, ?_⟩
  · intro hnone
    rw [hnone]
    rfl
  · intro hsome
    exact Text.passages_join hsome (isPassage_of_mem_codes hfragments)

theorem preview_prefix {limit limit' : Option Int}
    (hle : limit.getD g.previewLimit ≤ limit'.getD g.previewLimit) {source' : Text}
    (h : g.preview detections limit' = .ok source') :
    ∃ source, g.preview detections limit = .ok source ∧ source <+: source' := by
  obtain ⟨fragments, hfragments, rfl⟩ := preview_eq_ok_iff.1 h
  let first := (limit.getD g.previewLimit).toNat
  have hfirst : (detections.take first).mapM g.canvas.fragment = .ok (fragments.take first) := by
    have htake := List.forall₂_take first (mapM_eq_ok_iff.1 hfragments)
    rw [List.take_take, Nat.min_eq_left (Int.toNat_le_toNat hle)] at htake
    exact mapM_eq_ok_iff.2 htake
  have hcodes : Fragment.codes fragments =
      Fragment.codes (fragments.take first) ++ Fragment.codes (fragments.drop first) := by
    rw [← Fragment.codes_append, List.take_append_drop]
  refine ⟨_, preview_eq_ok_iff.2 ⟨_, hfirst, rfl⟩, ?_⟩
  rw [hcodes]
  exact Text.join_prefix_join_append _ _ _

/-- **A preview can be taken apart.** There is one for every limit, unless the canvas lacks a side
and the limit lets a detection in. Its passages are the sources of the widgets of the first
detections, in their order, without those that are empty; it is empty itself if there are none. Only
a status bar has an empty source. A preview with a greater limit begins with it. -/
theorem preview_passages (g : Generator) (detections : List Detection) :
    (∀ limit, (∃ source, g.preview detections limit = .ok source) ↔
      detections.take (limit.getD g.previewLimit).toNat = [] ∨ g.canvas.HasSides) ∧
    (∀ limit source, g.preview detections limit = .ok source →
      ∃ fragments, (detections.take (limit.getD g.previewLimit).toNat).mapM g.canvas.fragment =
          .ok fragments ∧
        (Fragment.codes fragments = [] → source = []) ∧
        (Fragment.codes fragments ≠ [] → source.passages = Fragment.codes fragments)) ∧
    (∀ d f, g.canvas.fragment d = .ok f → (f.code = [] ↔ d.isShown = false)) ∧
    ∀ limit limit', limit.getD g.previewLimit ≤ limit'.getD g.previewLimit →
      ∀ source', g.preview detections limit' = .ok source' →
        ∃ source, g.preview detections limit = .ok source ∧ source <+: source' := by
  refine ⟨exists_preview_iff g detections, ?_, ?_, ?_⟩
  · exact fun limit source h => passages_of_preview_eq_ok h
  · exact fun d f h => Canvas.code_eq_nil_iff h
  · exact fun limit limit' hle source' h => preview_prefix hle h

section Blank

/-- A label that has a blank line, and a detection without a widget. -/
def blankDetections : List Detection :=
  [⟨.text, ⟨.zero, .zero, .one, .one⟩, .one, some [0x61, 0x0A, 0x0A, 0x62]⟩,
    ⟨.statusBar, ⟨.zero, .zero, .one, .one⟩, .one, none⟩]

/-- The label is one passage, and the status bar is none. -/
theorem preview_passages_blank :
    ∃ source fragments, unitGenerator.preview blankDetections (some 2) = .ok source ∧
      blankDetections.mapM unitGenerator.canvas.fragment = .ok fragments ∧
      (Fragment.codes fragments).length = 1 ∧ source.passages = Fragment.codes fragments ∧
      ∃ first, unitGenerator.preview blankDetections (some 1) = .ok first ∧ first <+: source := by
  obtain ⟨hexists, hpassages, -, hprefix⟩ := preview_passages unitGenerator blankDetections
  obtain ⟨source, hsource⟩ := (hexists (some 2)).2 (.inr ⟨rfl, rfl⟩)
  obtain ⟨fragments, hfragments, -, hsome⟩ := hpassages (some 2) source hsource
  have hlength : (Fragment.codes fragments).length = 1 := by
    cases hfragments
    decide +kernel
  have hne : Fragment.codes fragments ≠ [] := by
    intro hnone
    rw [hnone] at hlength
    cases hlength
  exact ⟨source, fragments, hsource, hfragments, hlength, hsome hne,
    hprefix (some 1) (some 2) (by decide) source hsource⟩

end Blank

end Generator

end Wireframe
