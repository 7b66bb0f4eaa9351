import Wireframe.Document.Basic

/-!
# Documents that are accepted

Reading checks one field after the other, and then the document as a whole. What an accepted
document keeps of that is `Document.IsValid`: confidences between zero and one, positive sides of
the image, and the size of the image wherever boxes are in pixels.

Main statement: `Document.isValid_of_parse`.
-/
namespace Wireframe

/-! ## What accepted values satisfy -/

namespace Checked

variable {α β : Type} {P : α → Prop}

/-- The value satisfies `P` if it is accepted. -/
def Yields (c : Checked α) (P : α → Prop) : Prop := ∀ a, c = accepted a → P a

theorem yields_pure {a : α} (h : P a) : Yields (pure a) P := by
  rintro _ ⟨⟩
  exact h

theorem yields_refused (errors : List FieldError) : (refused errors).Yields P := by
  rintro _ ⟨⟩

theorem yields_ensure (c : Checked α) (p : α → Option Problem) :
    (c.ensure p).Yields fun a => p a = none := by
  intro a h
  cases c with
  | refused errors => cases h
  | accepted b =>
    rw [ensure] at h
    split at h
    next hnone =>
      cases h
      exact hnone
    next => cases h

theorem Yields.ensure {c : Checked α} (h : c.Yields P) (p : α → Option Problem) :
    (c.ensure p).Yields P := by
  cases c with
  | refused errors => exact yields_refused errors
  | accepted b =>
    rw [Checked.ensure]
    split
    · exact h
    · exact yields_refused _

theorem Yields.under {c : Checked α} (h : c.Yields P) (step : Step) : (c.under step).Yields P := by
  cases c with
  | refused errors => exact yields_refused _
  | accepted a => exact h

theorem Yields.map {Q : β → Prop} {f : α → β} {c : Checked α} (h : c.Yields fun a => Q (f a)) :
    (c.map f).Yields Q := by
  cases c with
  | refused errors => exact yields_refused errors
  | accepted a => exact yields_pure (h a rfl)

theorem Yields.seq {Q : β → Prop} {f : Checked (α → β)} {c : Checked α}
    (hf : f.Yields fun g => ∀ a, P a → Q (g a)) (hc : c.Yields P) : (f.seq c).Yields Q := by
  intro b h
  obtain ⟨g, a, hg, ha, rfl⟩ := seq_eq_accepted_iff.1 h
  exact hf g hg a (hc a ha)

/-- What the reading of an item yields holds of all items of a list. -/
theorem yields_all {f : β → Checked α} (h : ∀ b, (f b).Yields P) (i : Nat) (items : List β) :
    (all f i items).Yields fun values => ∀ a ∈ values, P a := by
  induction items generalizing i with
  | nil => exact yields_pure (by simp)
  | cons b rest ih =>
    refine Yields.seq (Yields.map ?_) (ih (i + 1))
    intro a ha tail htail
    exact List.forall_mem_cons.2 ⟨(h b).under (.index i) a ha, htail⟩

theorem ap_eq_accepted_iff {f : Checked (α → β)} {c : Checked α} {b : β} :
    f <*> c = accepted b ↔ ∃ g a, f = accepted g ∧ c = accepted a ∧ g a = b :=
  seq_eq_accepted_iff

theorem map_eq_accepted_iff {f : α → β} {c : Checked α} {b : β} :
    f <$> c = accepted b ↔ ∃ a, c = accepted a ∧ f a = b := by
  cases c <;> simp [Functor.map, seq, map]

end Checked

namespace Conversion

open Checked

variable {α : Type} {P : α → Prop} {read : Json → Checked α}

theorem yields_optional (h : ∀ v, (read v).Yields P) (v : Json) :
    (optional read v).Yields fun value => ∀ a ∈ value, P a := by
  rw [optional.eq_def]
  split
  · exact yields_pure (by simp)
  · exact Yields.map (by simpa using h _)

theorem yields_list (h : ∀ v, (read v).Yields P) (v : Json) :
    (list read v).Yields fun values => ∀ a ∈ values, P a := by
  cases v with
  | array items => exact yields_all h 0 items
  | _ => exact yields_refused _

theorem yields_field (h : ∀ v, (read v).Yields P) {absent : Checked α} (habsent : absent.Yields P)
    (members : List (Text × Json)) (name : Text) :
    (field members name read absent).Yields P := by
  rw [field]
  refine Yields.under ?_ _
  split
  · exact h _
  · exact habsent

end Conversion

/-! ## Records -/

namespace Record

open Checked Conversion

/-- The confidence lies between zero and one. -/
def IsValid (r : Record) : Prop :=
  Binary64.zero.le r.confidence = true ∧ r.confidence.le .one = true

theorem confidenceProblem_eq_none_iff {x : Binary64} :
    confidenceProblem x = none ↔ Binary64.zero.le x = true ∧ x.le .one = true := by
  rw [confidenceProblem]
  cases x.le .one <;> cases Binary64.zero.le x <;> simp

theorem yields_ofMembers (members : List (Text × Json)) : (ofMembers members).Yields IsValid := by
  have hconfidence : (field members "confidence" (fun v => (number v).ensure confidenceProblem)
      (pure .one)).Yields fun x => confidenceProblem x = none := by
    refine yields_field (fun v => yields_ensure (number v) confidenceProblem) ?_ _ _
    exact yields_pure (by decide +kernel)
  intro r h
  simp only [ofMembers, ap_eq_accepted_iff, map_eq_accepted_iff] at h
  obtain ⟨_, _, ⟨_, _, ⟨_, _, ⟨_, confidence, hrest, hfield, rfl⟩, -, rfl⟩, -, rfl⟩, -, rfl⟩ := h
  obtain ⟨_, _, ⟨_, _, ⟨_, -, rfl⟩, -, rfl⟩, -, rfl⟩ := hrest
  exact confidenceProblem_eq_none_iff.1 (hconfidence confidence hfield)

theorem yields_read (v : Json) : (read v).Yields IsValid := by
  cases v with
  | object members => exact yields_ofMembers members
  | _ => exact yields_refused _

end Record

/-! ## Documents -/

namespace Document

open Checked Conversion

/-- What reading makes sure of. -/
structure IsValid (d : Document) : Prop where
  records : ∀ r ∈ d.records, r.IsValid
  width : ∀ x ∈ d.imageWidth, Binary64.zero.lt x = true
  height : ∀ x ∈ d.imageHeight, Binary64.zero.lt x = true
  size : ∀ r ∈ d.records, r.boxFormat = .pixelCorners →
    d.imageWidth.isSome = true ∧ d.imageHeight.isSome = true

theorem sideProblem_eq_none_iff {x : Binary64} :
    sideProblem x = none ↔ Binary64.zero.lt x = true := by
  rw [sideProblem]
  cases Binary64.zero.lt x <;> simp

theorem sizeProblem_eq_none_iff {d : Document} :
    sizeProblem d = none ↔ ∀ r ∈ d.records, r.boxFormat = .pixelCorners →
      d.imageWidth.isSome = true ∧ d.imageHeight.isSome = true := by
  rw [sizeProblem]
  cases d.imageWidth <;> cases d.imageHeight <;> simp

theorem yields_readSide (v : Json) :
    (readSide v).Yields fun side => ∀ x ∈ side, Binary64.zero.lt x := by
  refine yields_optional ?_ v
  intro v x h
  exact sideProblem_eq_none_iff.1 (yields_ensure (number v) sideProblem x h)

theorem yields_ensure_ofMembers (members : List (Text × Json)) :
    ((ofMembers members).ensure sizeProblem).Yields IsValid := by
  have hside (name : Text) : (field members name readSide (pure none)).Yields
      fun side => ∀ x ∈ side, Binary64.zero.lt x :=
    yields_field yields_readSide (yields_pure (by simp)) members name
  have hrecords : (field members "detections" (list Record.read) (pure [])).Yields
      fun records => ∀ r ∈ records, r.IsValid :=
    yields_field (yields_list Record.yields_read) (yields_pure (by simp)) members _
  have hmembers : (ofMembers members).Yields fun d => (∀ r ∈ d.records, r.IsValid) ∧
      (∀ x ∈ d.imageWidth, Binary64.zero.lt x) ∧ ∀ x ∈ d.imageHeight, Binary64.zero.lt x := by
    intro d h
    simp only [ofMembers, ap_eq_accepted_iff, map_eq_accepted_iff] at h
    obtain ⟨_, records, ⟨_, _, hsides, -, rfl⟩, hdetections, rfl⟩ := h
    obtain ⟨_, height, ⟨_, width, ⟨_, -, rfl⟩, hwidth, rfl⟩, hheight, rfl⟩ := hsides
    exact ⟨hrecords records hdetections, hside _ width hwidth, hside _ height hheight⟩
  intro d h
  obtain ⟨hvalid, hwidth, hheight⟩ := hmembers.ensure sizeProblem d h
  exact ⟨hvalid, hwidth, hheight, sizeProblem_eq_none_iff.1 (yields_ensure _ _ d h)⟩

theorem yields_read (v : Json) : (read v).Yields IsValid := by
  cases v with
  | array items => exact yields_ensure_ofMembers _
  | object members => exact yields_ensure_ofMembers members
  | _ => exact yields_refused _

theorem isValid_of_parse {v : Json} {source : Option Text} {d : Document}
    (h : parse v source = .ok d) : d.IsValid := by
  rw [parse] at h
  split at h
  next document hread =>
    cases h
    exact yields_read v d hread
  next => cases h

end Document

end Wireframe
