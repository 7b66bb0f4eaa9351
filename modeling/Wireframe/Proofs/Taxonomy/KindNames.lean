import Wireframe.Document.Record
import Wireframe.Proofs.Taxonomy.Classification
import Wireframe.Proofs.Taxonomy.Words

/-!
# Names of kinds as labels

A kind is recognised by its name or by a label that means it. Both readings leave the words of a
text as they are but for their case, so that a text which names a kind has the words of that kind,
and its phrase for a normal form (`normalLabel_of_ofName?`). The taxonomy for user interfaces knows
the phrase of every kind, except that of the unknown kind, in which none of its aliases stands
(`means_phrase`).

Main statement: `classify_agrees_with_names`.
-/
namespace Wireframe

namespace Kind

theorem words_name (k : Kind) : k.name.words = k.words := by cases k <;> decide

theorem words_nameKey (given : Text) : (nameKey given).words = given.words.map Text.lower := by
  rw [nameKey, Text.words_replace (by decide) (by decide),
    Text.words_replace (by decide) (by decide), Text.words_lower, Text.words_strip]

theorem nameKey_of_ofName? {given : Text} {kind : Kind} (h : ofName? given = some kind) :
    nameKey given = kind.name := by
  have hname := List.find?_some h
  exact (of_decide_eq_true hname).symm

/-- What names a kind has its phrase for a normal form. -/
theorem normalLabel_of_ofName? {given : Text} {kind : Kind} (h : ofName? given = some kind) :
    given.normalLabel = kind.phrase := by
  rw [Text.normalLabel_eq_join, ← words_nameKey, nameKey_of_ofName? h, words_name]
  rfl

end Kind

namespace Taxonomy

open Table

/-- Among the aliases for user interfaces is the phrase of every known kind, and none that stands in
the phrase of the unknown one. -/
theorem interface_phrases :
    ((Kind.all.all fun kind => decide
        (kind ≠ .unknown → interface.aliases.get? kind.phrase = some kind)) &&
      interface.aliases.keys.all fun part => !part.occursIn Kind.unknown.phrase) = true := by
  decide +kernel

theorem means_phrase (kind : Kind) : interface.Means kind.phrase kind := by
  have hchecked := interface_phrases
  rw [Bool.and_eq_true, List.all_eq_true, List.all_eq_true] at hchecked
  obtain ⟨hknown, hunknown⟩ := hchecked
  by_cases hkind : kind = .unknown
  · subst hkind
    refine .fallback (.inr ?_)
    intro part hpart hoccurs
    have hnot := hunknown part hpart
    rw [Text.occursIn_iff.2 hoccurs] at hnot
    cases hnot
  · have hget : interface.aliases.get? kind.phrase = some kind :=
      of_decide_eq_true (hknown kind (Kind.mem_all kind)) hkind
    have hphrase : kind.phrase ≠ [] := by cases kind <;> decide
    exact .decided hphrase (decides_self (mem_keys_iff.2 ⟨kind, hget⟩)) hget

/-- As a label, what names a kind means that kind. -/
theorem classify_of_ofName? {given : Text} {kind : Kind} (h : Kind.ofName? given = some kind) :
    interface.classify given = kind := by
  have hmeans := means_classify interface given
  rw [Kind.normalLabel_of_ofName? h] at hmeans
  exact hmeans.unique (means_phrase kind)

end Taxonomy

namespace Record

open Taxonomy

/-- **Names and labels agree.** A text that names a kind means that kind as a label for user
interfaces. So the kind of a record that has no class name is what its kind field means as a label,
whether that names a kind or not. -/
theorem classify_agrees_with_names :
    (∀ given kind, Kind.ofName? given = some kind → interface.classify given = kind) ∧
    ∀ (r : Record) (given : Text), r.kind = some given → given ≠ [] →
      nonEmpty? r.className = none → r.elementKind "ui" = interface.classify given := by
  refine ⟨fun _ _ => classify_of_ofName?, ?_⟩
  intro r given hkind hgiven hclass
  have hfield : nonEmpty? r.kind = some given := by
    rw [hkind]
    cases given with
    | nil => exact absurd rfl hgiven
    | cons c rest => rfl
  have hnamed : Taxonomy.named "ui" = interface := if_neg (by decide +kernel)
  rw [elementKind, hfield, Option.bind_some, hnamed]
  cases hname : Kind.ofName? given with
  | some kind => exact (classify_of_ofName? hname).symm
  | none =>
    rw [rawLabel, hclass, hfield]
    rfl

section Fields

/-- A record whose kind field is no name, but an alias. -/
def toggleRecord : Record :=
  ⟨some "On-off  Switch", some [], some "Wi-Fi", .one, ⟨.zero, .zero, .one, .one⟩, .normalizedSize,
    .topLeft⟩

theorem classify_agrees_with_names_toggle :
    Kind.ofName? " Status-BAR " = some .statusBar ∧ interface.classify " Status-BAR " = .statusBar ∧
      Kind.ofName? "On-off  Switch" = none ∧ nonEmpty? toggleRecord.className = none ∧
      toggleRecord.elementKind "ui" = interface.classify "On-off  Switch" := by
  obtain ⟨hnames, hfields⟩ := classify_agrees_with_names
  have hname : Kind.ofName? " Status-BAR " = some .statusBar := by decide +kernel
  refine ⟨hname, hnames _ _ hname, by decide +kernel, rfl, ?_⟩
  exact hfields toggleRecord _ rfl (by decide) rfl

end Fields

end Record

end Wireframe
