import Wireframe.Proofs.Table
import Wireframe.Proofs.Taxonomy.NormalForm
import Wireframe.Taxonomy.Basic

/-!
# Tables of aliases

The table of normalized aliases has the kind of the last raw alias with a normal form
(`get?_normalizeAliases`), and the aliases of a taxonomy that was built, from raw aliases or by
extending another, are distinct labels in normal form (`IsBuilt.isAliasTable`).
-/
namespace Wireframe

/-! ## Normalized aliases -/

namespace Taxonomy

open Table

/-- Enters a raw alias under its normal form, unless that is empty. -/
def enter (table : Table Kind) (entry : Text × Kind) : Table Kind :=
  if entry.1.normalLabel.isEmpty then table else table.put entry.1.normalLabel entry.2

theorem normalizeAliases_eq (raw : List (Text × Kind)) :
    normalizeAliases raw = raw.foldl enter [] :=
  rfl

theorem get?_foldl_enter (raw : List (Text × Kind)) (table : Table Kind) (key : Text) :
    (raw.foldl enter table).get? key =
      (last? (fun label => !label.normalLabel.isEmpty && label.normalLabel = key) raw).or
        (table.get? key) := by
  induction raw generalizing table with
  | nil => simp [last?]
  | cons entry rest ih =>
    obtain ⟨label, kind⟩ := entry
    rw [List.foldl_cons, ih, last?, Option.or_assoc, enter]
    congr 1
    by_cases hempty : label.normalLabel.isEmpty
    · simp [hempty]
    · by_cases hkey : key = label.normalLabel
      · simp [get?_put, hkey, hempty]
      · simp [get?_put, hkey, Ne.symm hkey, hempty]

theorem keys_nodup_foldl_enter (raw : List (Text × Kind)) {table : Table Kind}
    (h : table.keys.Nodup) : (raw.foldl enter table).keys.Nodup := by
  induction raw generalizing table with
  | nil => exact h
  | cons entry rest ih =>
    refine ih ?_
    unfold enter
    split
    · exact h
    · exact keys_nodup_put h _ _

/-- A normal form has the kind of the last raw alias that is written so. -/
theorem get?_normalizeAliases (raw : List (Text × Kind)) {key : Text} (hkey : key ≠ []) :
    (normalizeAliases raw).get? key = last? (fun label => label.normalLabel = key) raw := by
  rw [normalizeAliases_eq, get?_foldl_enter, get?_nil, Option.or_none]
  refine last?_congr ?_
  intro label _
  by_cases hlabel : label.normalLabel = key
  · simp [hlabel, hkey]
  · simp [hlabel]

theorem get?_normalizeAliases_nil (raw : List (Text × Kind)) :
    (normalizeAliases raw).get? [] = none := by
  rw [normalizeAliases_eq, get?_foldl_enter, get?_nil, Option.or_none, last?_eq_none_iff]
  intro label _
  by_cases hlabel : label.normalLabel = [] <;> simp [hlabel]

/-- The keys of a table are distinct labels in normal form, none of them empty. -/
structure IsAliasTable (table : Table Kind) : Prop where
  nodup : table.keys.Nodup
  normal : ∀ key ∈ table.keys, key.normalLabel = key
  nonempty : [] ∉ table.keys

/-- A label whose normal form is a key is that key, or no key. -/
theorem IsAliasTable.mem_keys_iff {table : Table Kind} (h : IsAliasTable table) {label key : Text}
    (hlabel : label.normalLabel = key) : label ∈ table.keys ↔ label = key ∧ key ∈ table.keys := by
  constructor
  · intro hmem
    have heq : label = key := by rw [← h.normal label hmem, hlabel]
    exact ⟨heq, heq ▸ hmem⟩
  · rintro ⟨rfl, hmem⟩
    exact hmem

theorem isAliasTable_normalizeAliases (raw : List (Text × Kind)) :
    IsAliasTable (normalizeAliases raw) where
  nodup := keys_nodup_foldl_enter raw List.nodup_nil
  normal := by
    intro key hmem
    obtain ⟨kind, hkind⟩ := mem_keys_iff.1 hmem
    have hkey : key ≠ [] := by
      rintro rfl
      rw [get?_normalizeAliases_nil] at hkind
      cases hkind
    rw [get?_normalizeAliases raw hkey] at hkind
    obtain ⟨label, -, hlabel⟩ := exists_of_last?_eq_some hkind
    have hnormal : label.normalLabel = key := by simpa using hlabel
    rw [← hnormal, Text.normalLabel_normalLabel]
  nonempty := by
    rw [← get?_eq_none_iff]
    exact get?_normalizeAliases_nil raw

/-- An alias has a kind that a raw alias was given. -/
theorem exists_of_get?_normalizeAliases {raw : List (Text × Kind)} {key : Text} {kind : Kind}
    (h : (normalizeAliases raw).get? key = some kind) : ∃ label, (label, kind) ∈ raw := by
  have hkey : key ≠ [] := by
    rintro rfl
    rw [get?_normalizeAliases_nil] at h
    cases h
  rw [get?_normalizeAliases raw hkey] at h
  obtain ⟨label, hmem, -⟩ := exists_of_last?_eq_some h
  exact ⟨label, hmem⟩

/-! ## Taxonomies -/

/-- A taxonomy that is built from raw aliases, or from another one by extending it. -/
inductive IsBuilt : Taxonomy → Prop where
  | ofAliases (name : Text) (raw : List (Text × Kind)) (fallback : Kind) :
    IsBuilt (ofAliases name raw fallback)
  | extend {t : Taxonomy} (h : IsBuilt t) (name : Text) (extra : List (Text × Kind)) :
    IsBuilt (t.extend name extra)

theorem IsBuilt.isAliasTable {t : Taxonomy} (h : t.IsBuilt) : IsAliasTable t.aliases := by
  cases h with
  | ofAliases name raw fallback => exact isAliasTable_normalizeAliases _
  | extend h name extra => exact isAliasTable_normalizeAliases _

end Taxonomy

end Wireframe
