import Wireframe.Proofs.Taxonomy.KindNames

/-!
# Which raw label decides

A record that names no kind has up to three raw labels: its class name, its kind and its label. The
first of them that is not empty is classified, whatever it means, and the others have no say
(`elementKind_eq`). So a label that means something may stand behind one that means nothing, and
this is the only way in which a record with a meaningful label comes to be of no particular kind
(`elementKind_recognized_iff`).
-/
namespace Wireframe

/-! ## Labels that mean something -/

namespace Taxonomy

open Table

/-- A label that means something means another kind than the fallback. -/
def Recognizes (t : Taxonomy) (raw : Text) : Prop := t.classify raw ≠ t.fallback

instance (t : Taxonomy) (raw : Text) : Decidable (t.Recognizes raw) :=
  inferInstanceAs (Decidable (_ ≠ _))

theorem not_recognizes_nil (t : Taxonomy) : ¬t.Recognizes [] := by
  have hempty : Text.normalLabel [] = [] := rfl
  simp [Recognizes, classify, hempty]

/-- A taxonomy that was built from aliases none of which stands for the fallback. -/
structure IsInformative (t : Taxonomy) : Prop where
  built : t.IsBuilt
  informs : ∀ key kind, t.aliases.get? key = some kind → kind ≠ t.fallback

/-- A label means something exactly when an alias stands in it. -/
theorem IsInformative.recognizes_iff {t : Taxonomy} (h : t.IsInformative) {raw : Text} :
    t.Recognizes raw ↔ ∃ part ∈ t.aliases.keys, part <:+: raw.normalLabel := by
  have hmeans := means_classify t raw
  unfold Recognizes
  generalize t.classify raw = kind at hmeans
  cases hmeans with
  | fallback hnone =>
    refine iff_of_false (fun hne => hne rfl) ?_
    rintro ⟨part, hpart, hoccurs⟩
    rcases hnone with hempty | hnone
    · rw [hempty, List.infix_nil] at hoccurs
      exact h.built.isAliasTable.nonempty (hoccurs ▸ hpart)
    · exact hnone part hpart hoccurs
  | @decided part _ _ hdecides hkind =>
    exact iff_of_true (h.informs part _ hkind) ⟨part, hdecides.mem, hdecides.occurs⟩

theorem isInformative_ofAliases (name : Text) {groups : List (Kind × List Text)} {fallback : Kind}
    (h : ∀ group ∈ groups, group.1 ≠ fallback) :
    (ofAliases name (aliasEntries groups) fallback).IsInformative := by
  refine ⟨.ofAliases _ _ _, ?_⟩
  intro key kind hkind
  obtain ⟨label, hlabel⟩ := exists_of_get?_normalizeAliases hkind
  have hentry : (label, kind) ∈ aliasEntries groups :=
    (mem_of_mem_putAll hlabel).resolve_left List.not_mem_nil
  obtain ⟨group, hgroup, hmem⟩ := List.mem_flatMap.1 hentry
  obtain ⟨label', -, heq⟩ := List.mem_map.1 hmem
  cases heq
  exact h group hgroup

/-- In the standard taxonomies no alias stands for the unknown kind. -/
theorem isInformative_interface : interface.IsInformative := isInformative_ofAliases _ (by simp)

theorem isInformative_everyday : everyday.IsInformative := isInformative_ofAliases _ (by simp)

theorem isInformative_named (name : Text) : (named name).IsInformative := by
  unfold named
  split
  · exact isInformative_everyday
  · exact isInformative_interface

theorem recognizes_of_ofName? {given : Text} {kind : Kind} (h : Kind.ofName? given = some kind)
    (hkind : kind ≠ .unknown) : interface.Recognizes given := by
  rw [Recognizes, classify_of_ofName? h]
  exact hkind

theorem exists_recognizes_named (name : Text) : ∃ raw, (named name).Recognizes raw := by
  refine ⟨"button", ?_⟩
  unfold named
  split
  · decide +kernel
  · have hbutton : Kind.ofName? "button" = some .button := by decide +kernel
    exact recognizes_of_ofName? hbutton (by decide)

end Taxonomy

/-! ## Labels of a record -/

namespace Record

open Taxonomy

/-- What is written in the record that may be classified, in the order in which it is asked for. -/
def writtenLabels (r : Record) : List Text := [r.className, r.kind, r.label].filterMap id

/-- The written labels that are not empty. -/
def rawLabels (r : Record) : List Text := r.writtenLabels.filter (· ≠ [])

theorem rawLabel_eq (r : Record) : r.rawLabel = r.rawLabels.head?.getD [] := by
  obtain ⟨kind, className, label, confidence, box, boxFormat, origin⟩ := r
  rcases className with _ | _ | ⟨c, rest⟩ <;> rcases kind with _ | _ | ⟨c', rest'⟩ <;>
    rcases label with _ | _ | ⟨c'', rest''⟩ <;> rfl

/-- The record names no kind. -/
def IsUnnamed (r : Record) : Prop := r.kind.bind Kind.ofName? = none

instance (r : Record) : Decidable r.IsUnnamed := inferInstanceAs (Decidable (_ = none))

theorem elementKind_of_isUnnamed {r : Record} (h : r.IsUnnamed) (name : Text) :
    r.elementKind name = (named name).classify r.rawLabel := by
  have hfield : (nonEmpty? r.kind).bind Kind.ofName? = none := by
    unfold IsUnnamed at h
    rcases hkind : r.kind with _ | _ | ⟨c, rest⟩
    · rfl
    · rfl
    · rw [hkind] at h
      exact h
  rw [elementKind, hfield]

/-- A record that names no kind is of the kind that its first raw label means. -/
theorem elementKind_eq {r : Record} (h : r.IsUnnamed) (name : Text) :
    r.elementKind name = (named name).classify (r.rawLabels.head?.getD []) := by
  rw [elementKind_of_isUnnamed h, rawLabel_eq]

/-- A raw label that means nothing stands before one that means something. -/
def Hides (r : Record) (t : Taxonomy) : Prop :=
  ∃ first rest, r.rawLabels = first :: rest ∧ ¬t.Recognizes first ∧
    ∃ later ∈ rest, t.Recognizes later

theorem exists_rawLabel_iff {r : Record} {t : Taxonomy} :
    (∃ text ∈ r.rawLabels, t.Recognizes text) ↔ ∃ text ∈ r.writtenLabels, t.Recognizes text := by
  constructor
  · rintro ⟨text, hmem, hrecognized⟩
    exact ⟨text, (List.mem_filter.1 hmem).1, hrecognized⟩
  · rintro ⟨text, hmem, hrecognized⟩
    have hne : text ≠ [] := by
      rintro rfl
      exact not_recognizes_nil t hrecognized
    exact ⟨text, List.mem_filter.2 ⟨hmem, by simpa using hne⟩, hrecognized⟩

/-- Of the raw labels the first one decides: if it means nothing, another one is hidden. -/
theorem recognizes_first_iff (r : Record) (t : Taxonomy) :
    ((∃ text ∈ r.writtenLabels, t.Recognizes text) → t.Recognizes (r.rawLabels.head?.getD [])) ↔
      ¬r.Hides t := by
  rw [← exists_rawLabel_iff, Hides]
  cases hlabels : r.rawLabels with
  | nil => simp
  | cons first rest =>
    constructor
    · rintro hfirst ⟨_, _, ⟨⟩, hnot, later, hlater, hrecognized⟩
      exact hnot (hfirst ⟨later, List.mem_cons_of_mem _ hlater, hrecognized⟩)
    · rintro hhides ⟨text, hmem, hrecognized⟩
      by_contra hnot
      rcases List.mem_cons.1 hmem with rfl | hlater
      · exact hnot hrecognized
      · exact hhides ⟨first, rest, rfl, hnot, text, hlater, hrecognized⟩

/-- The label is classified, whatever it is, only where nothing else is. -/
theorem classify_label_iff {r : Record} (h : r.IsUnnamed) (name : Text) :
    (∀ label, { r with label := label }.elementKind name = (named name).classify (label.getD [])) ↔
      nonEmpty? r.className = none ∧ nonEmpty? r.kind = none := by
  have hkind (label : Option Text) : { r with label := label }.elementKind name =
      (named name).classify { r with label := label }.rawLabel :=
    elementKind_of_isUnnamed (r := { r with label := label }) h name
  -- No text means the same as every label.
  have hfixed {first : Text} (hall : ∀ label : Option Text,
      (named name).classify first = (named name).classify (label.getD [])) : False := by
    obtain ⟨raw, hraw⟩ := exists_recognizes_named name
    exact hraw ((hall (some raw)).symm.trans (hall none))
  simp only [hkind, rawLabel]
  rcases nonEmpty? r.className with _ | first
  · rcases nonEmpty? r.kind with _ | first
    · refine iff_of_true (fun label => ?_) ⟨rfl, rfl⟩
      rcases label with _ | _ | ⟨c, rest⟩ <;> rfl
    · exact iff_of_false (fun hall => hfixed hall) (by simp)
  · exact iff_of_false (fun hall => hfixed hall) (by simp)

/-- **When a meaningful label counts.** Of a record that names no kind the first raw label decides.
A record with a label that means something is of a kind that means something, unless a raw label
that means nothing stands before it; so the label itself is classified only where there is neither a
class name nor a kind. That a label means something is to say that an alias stands in it. -/
theorem elementKind_recognized_iff {r : Record} (h : r.IsUnnamed) (name : Text) :
    let t := named name
    (((∃ text ∈ r.writtenLabels, t.Recognizes text) → r.elementKind name ≠ t.fallback) ↔
      ¬r.Hides t) ∧
    r.elementKind name = t.classify (r.rawLabels.head?.getD []) ∧
    ((∀ label, { r with label := label }.elementKind name = t.classify (label.getD [])) ↔
      nonEmpty? r.className = none ∧ nonEmpty? r.kind = none) ∧
    ∀ text, t.Recognizes text ↔ ∃ part ∈ t.aliases.keys, part <:+: text.normalLabel := by
  intro t
  refine ⟨?_, elementKind_eq h name, classify_label_iff h name, ?_⟩
  · rw [elementKind_eq h]
    exact recognizes_first_iff r t
  · exact fun text => (isInformative_named name).recognizes_iff

section Hidden

/-- A record of the given labels. -/
def labelled (className kind label : Option Text) : Record :=
  ⟨kind, className, label, .one, ⟨.zero, .zero, .one, .one⟩, .normalizedSize, .topLeft⟩

/-- A text that is no name of a kind, and in which no alias stands. -/
def blob : Text := "blob"

theorem not_recognizes_blob : ¬interface.Recognizes blob := by
  have hnormal : blob.normalLabel = blob := by decide +kernel
  have hnone : (interface.aliases.keys.all fun part => !part.occursIn blob) = true := by
    decide +kernel
  rw [isInformative_interface.recognizes_iff, hnormal]
  rintro ⟨part, hpart, hoccurs⟩
  have hnot := List.all_eq_true.1 hnone part hpart
  rw [Text.occursIn_iff.2 hoccurs] at hnot
  cases hnot

/-- Before a label that means nothing stands a class name that means something. -/
theorem elementKind_recognized_namedClass :
    let r := labelled (some "Status-BAR") (some blob) (some blob)
    r.IsUnnamed ∧ ¬r.Hides interface ∧ r.elementKind "ui" ≠ .unknown := by
  intro r
  have hunnamed : r.IsUnnamed := by decide +kernel
  have hnamed : named "ui" = interface := if_neg (by decide +kernel)
  have hname : Kind.ofName? "Status-BAR" = some .statusBar := by decide +kernel
  have hmeans : interface.Recognizes "Status-BAR" := recognizes_of_ofName? hname (by decide)
  have hshown : ¬r.Hides interface := by
    rintro ⟨first, rest, hlabels, hnot, -⟩
    cases hlabels
    exact hnot hmeans
  obtain ⟨hiff, -⟩ := elementKind_recognized_iff hunnamed "ui"
  rw [hnamed] at hiff
  exact ⟨hunnamed, hshown, hiff.2 hshown ⟨_, List.mem_cons_self, hmeans⟩⟩

/-- A kind that means nothing before a label that means something. -/
def blobRecord : Record := labelled none (some blob) (some "button")

/-- The record is of no particular kind, though its label on its own means a button. -/
theorem elementKind_hides_blobRecord :
    blobRecord.IsUnnamed ∧ blobRecord.label = some (Text.ofString "button") ∧
      (named "ui").classify "button" = .button ∧ blobRecord.Hides (named "ui") ∧
      blobRecord.elementKind "ui" = (named "ui").fallback := by
  have hnamed : named "ui" = interface := if_neg (by decide +kernel)
  have hunnamed : blobRecord.IsUnnamed := by decide +kernel
  have hbutton : Kind.ofName? "button" = some .button := by decide +kernel
  have hlater : interface.Recognizes "button" := recognizes_of_ofName? hbutton (by decide)
  rw [elementKind_of_isUnnamed hunnamed, hnamed]
  refine ⟨hunnamed, rfl, classify_of_ofName? hbutton, ?_, not_not.1 not_recognizes_blob⟩
  exact ⟨blob, ["button"], rfl, not_recognizes_blob, "button", List.mem_cons_self, hlater⟩

end Hidden

end Record

end Wireframe
