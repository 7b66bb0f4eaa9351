import Wireframe.Proofs.Taxonomy.Classification

/-!
# Aliases mean their own kind

The aliases of a taxonomy are listed kind by kind. Every alias stands in one of the lists, in the
order of code points and once (`pairwise_aliasesFor`), and it means the kind under which it is
listed, whatever other aliases stand in it: a label that is an alias is looked up. In the same way a
raw alias means the kind that it was given, unless a later one has its normal form (`Prevails`).

Main statement: `aliases_mean_own_kind`.
-/
namespace Wireframe

namespace Taxonomy

open Table

/-! ## Labels that are aliases -/

theorem classify_of_get? {t : Taxonomy} {raw : Text} {kind : Kind} (hraw : raw.normalLabel ≠ [])
    (h : t.aliases.get? raw.normalLabel = some kind) : t.classify raw = kind := by
  rw [classify_eq, if_neg (by rwa [List.isEmpty_iff]), h]
  rfl

/-- The entry with the label is the last one with its normal form, and that is not empty. -/
def Prevails (entries : List (Text × Kind)) (label : Text) (kind : Kind) : Prop :=
  label.normalLabel ≠ [] ∧ ∃ before after, entries = before ++ (label, kind) :: after ∧
    ∀ entry ∈ after, entry.1.normalLabel ≠ label.normalLabel

/-- The last of the raw aliases with a normal form means its kind. -/
theorem classify_of_prevails {t : Taxonomy} {entries : List (Text × Kind)}
    (ht : t.aliases = normalizeAliases entries) {label : Text} {kind : Kind}
    (h : Prevails entries label kind) : t.classify label = kind := by
  obtain ⟨hlabel, before, after, rfl, hafter⟩ := h
  refine classify_of_get? hlabel ?_
  have hnone : last? (fun other => other.normalLabel = label.normalLabel) after = none := by
    rw [last?_eq_none_iff, keys, List.forall_mem_map]
    intro entry hentry
    exact decide_eq_false (hafter entry hentry)
  rw [ht, get?_normalizeAliases _ hlabel, last?_append, last?, hnone]
  simp

/-! ## Lists of aliases -/

section Built

variable {t : Taxonomy} (ht : t.IsBuilt)

include ht

/-- An alias is listed under the kind that the table has for it. -/
theorem mem_aliasesFor_iff {kind : Kind} {label : Text} :
    label ∈ t.aliasesFor kind ↔ t.aliases.get? label = some kind := by
  rw [get?_eq_some_iff ht.isAliasTable.nodup, aliasesFor, List.mem_mergeSort, List.mem_map]
  simp [and_comm]

theorem classify_of_mem_aliasesFor {kind : Kind} {label : Text} (h : label ∈ t.aliasesFor kind) :
    t.classify label = kind := by
  have hget : t.aliases.get? label = some kind := (mem_aliasesFor_iff ht).1 h
  have hmem : label ∈ t.aliases.keys := mem_keys_iff.2 ⟨kind, hget⟩
  have hnormal : label.normalLabel = label := ht.isAliasTable.normal label hmem
  have hne : label ≠ [] := fun heq => ht.isAliasTable.nonempty (heq ▸ hmem)
  exact classify_of_get? (by rwa [hnormal]) (by rwa [hnormal])

theorem existsUnique_mem_aliasesFor {label : Text} (h : label ∈ t.aliases.keys) :
    ∃! kind, label ∈ t.aliasesFor kind := by
  obtain ⟨kind, hget⟩ := mem_keys_iff.1 h
  refine ⟨kind, (mem_aliasesFor_iff ht).2 hget, ?_⟩
  intro other hother
  rw [mem_aliasesFor_iff ht, hget] at hother
  exact (Option.some.inj hother).symm

/-- Sorting puts the aliases in order, and they are distinct as they are keys. -/
theorem pairwise_aliasesFor (kind : Kind) : (t.aliasesFor kind).Pairwise (· < ·) := by
  have hnodup : (t.aliasesFor kind).Nodup := by
    rw [aliasesFor, (List.mergeSort_perm _ _).nodup_iff]
    exact ht.isAliasTable.nodup.sublist (List.filter_sublist.map _)
  have hsorted : (t.aliasesFor kind).Pairwise fun a b => a.le b := by
    refine List.pairwise_mergeSort ?_ ?_ _
    · intro a b c hab hbc
      exact Text.le_iff.2 (le_trans (Text.le_iff.1 hab) (Text.le_iff.1 hbc))
    · intro a b
      rw [Bool.or_eq_true, Text.le_iff, Text.le_iff]
      exact le_total a b
  refine (hsorted.and hnodup).imp ?_
  rintro a b ⟨hle, hne⟩
  exact lt_of_le_of_ne (Text.le_iff.1 hle) hne

end Built

/-- **Aliases mean their own kind**, in every taxonomy that is built from raw aliases or by
extending another. Each alias is listed under one kind, the lists are sorted strictly, and what is
listed under a kind means it. A raw alias means the kind it was given, if it has a normal form that
no later one has: both where a taxonomy is built from them and where it is extended by them. -/
theorem aliases_mean_own_kind {t : Taxonomy} (ht : t.IsBuilt) :
    (∀ kind, ∀ label ∈ t.aliasesFor kind, t.classify label = kind) ∧
    (∀ label ∈ t.aliases.keys, ∃! kind, label ∈ t.aliasesFor kind) ∧
    (∀ kind, (t.aliasesFor kind).Pairwise (· < ·)) ∧
    (∀ name raw fallback label kind, Prevails (ofEntries raw) label kind →
      (ofAliases name raw fallback).classify label = kind) ∧
    (∀ name extra label kind, Prevails (t.aliases.putAll extra) label kind →
      (t.extend name extra).classify label = kind) := by
  refine ⟨?_, ?_, pairwise_aliasesFor ht, ?_, ?_⟩
  · intro kind label hlabel
    exact classify_of_mem_aliasesFor ht hlabel
  · intro label hlabel
    exact existsUnique_mem_aliasesFor ht hlabel
  · intro name raw fallback label kind hprevails
    exact classify_of_prevails rfl hprevails
  · intro name extra label kind hprevails
    exact classify_of_prevails rfl hprevails

section Boxes

/-- Two of the aliases have one normal form, in which the third one stands. -/
def boxAliases : List (Text × Kind) :=
  [("Box", .container), ("check_box", .checkbox), ("Check  Box", .switch)]

def boxes : Taxonomy := ofAliases "boxes" boxAliases .unknown

theorem aliases_mean_own_kind_boxes :
    boxes.IsBuilt ∧ Text.ofString "check box" ∈ boxes.aliasesFor .switch ∧
      boxes.classify "check box" = .switch ∧
      Prevails (ofEntries boxAliases) "Check  Box" .switch ∧
      boxes.classify "Check  Box" = .switch := by
  have hbuilt : boxes.IsBuilt := .ofAliases _ _ _
  obtain ⟨hlisted, -, -, hraw, -⟩ := aliases_mean_own_kind hbuilt
  have hmem : Text.ofString "check box" ∈ boxes.aliasesFor .switch := by
    rw [mem_aliasesFor_iff hbuilt]
    decide +kernel
  have hprevails : Prevails (ofEntries boxAliases) "Check  Box" .switch :=
    ⟨by decide +kernel, [("Box", .container), ("check_box", .checkbox)], [], by decide +kernel,
      by simp⟩
  exact ⟨hbuilt, hmem, hlisted _ _ hmem, hprevails, hraw _ _ _ _ _ hprevails⟩

end Boxes

end Taxonomy

end Wireframe
