import Wireframe.Proofs.Taxonomy.Aliases

/-!
# Extending a taxonomy

What an extended taxonomy gives each label (`get?_extend`): new labels the kind that the further
aliases give them on their own; but where a label is an alias already, the entries that spell it in
another way count more than the one that spells it as it is, whichever was made last, because that
one takes the place of the old entry and they follow it. So the further aliases override the old
ones just where this makes no difference (`extend_overrides_iff`).
-/
namespace Wireframe

namespace Taxonomy

open Table

/-! ## Tables that are normalized already -/

theorem foldl_enter_of_isAliasTable {table entries : Table Kind}
    (h : IsAliasTable (table ++ entries)) : entries.foldl enter table = table ++ entries := by
  induction entries generalizing table with
  | nil => simp
  | cons entry rest ih =>
    obtain ⟨key, kind⟩ := entry
    have hmem : key ∈ keys (table ++ (key, kind) :: rest) := by simp [keys]
    have hnormal : key.normalLabel = key := h.normal key hmem
    have hnonempty : key ≠ [] := fun heq => h.nonempty (heq ▸ hmem)
    have hnot : key ∉ table.keys := by
      intro hold
      have hnodup := h.nodup
      rw [keys_append] at hnodup
      exact List.disjoint_of_nodup_append hnodup hold (by simp [keys])
    have henter : enter table (key, kind) = table ++ [(key, kind)] := by
      have hput := put_append table [] key kind
      rw [List.append_nil, if_neg hnot, put] at hput
      simpa [enter, hnormal, hnonempty] using hput
    rw [List.foldl_cons, henter, ih (by simpa using h), List.append_assoc, List.singleton_append]

theorem normalizeAliases_eq_self {table : Table Kind} (h : IsAliasTable table) :
    normalizeAliases table = table :=
  foldl_enter_of_isAliasTable h

/-- Extending by nothing gives a new name only. -/
theorem extend_nil {t : Taxonomy} (ht : t.IsBuilt) (name : Text) :
    t.extend name [] = { t with name := name } := by
  rw [extend, putAll, List.foldl_nil, normalizeAliases_eq_self ht.isAliasTable]

/-! ## The kinds of labels -/

/-- The last kind that further aliases give a label in a spelling other than its normal form. -/
def respelled (extra : List (Text × Kind)) (key : Text) : Option Kind :=
  last? (fun label => label ≠ key ∧ label.normalLabel = key) (ofEntries extra)

theorem keys_nodup_ofEntries (extra : List (Text × Kind)) : (ofEntries extra).keys.Nodup :=
  keys_nodup_putAll (t := []) List.nodup_nil extra

/-- The kind that aliases give a label on their own. -/
theorem get?_ofAliases (name : Text) (extra : List (Text × Kind)) (fallback : Kind) {key : Text}
    (hkey : key ≠ []) : (ofAliases name extra fallback).aliases.get? key =
      last? (fun label => label.normalLabel = key) (ofEntries extra) :=
  get?_normalizeAliases _ hkey

/-- A label that is not respelled has its kind from the entry that spells it as it is. -/
theorem get?_ofAliases_of_respelled_eq_none {name : Text} {extra : List (Text × Kind)}
    {fallback : Kind} {key : Text} (hkey : key ≠ []) (hnormal : key.normalLabel = key)
    (h : respelled extra key = none) :
    (ofAliases name extra fallback).aliases.get? key = (ofEntries extra).get? key := by
  rw [get?_ofAliases name extra fallback hkey, ← last?_eq_get? (keys_nodup_ofEntries extra)]
  refine last?_congr ?_
  intro label hlabel
  have hnot := last?_eq_none_iff.1 h label hlabel
  by_cases heq : label = key
  · simp [heq, hnormal]
  · simpa [heq] using hnot

/-- A label that is respelled has a kind. -/
theorem get?_ofAliases_of_respelled_eq_some (name : Text) (fallback : Kind)
    {extra : List (Text × Kind)} {key : Text} (hkey : key ≠ []) {kind : Kind}
    (h : respelled extra key = some kind) :
    ∃ kind', (ofAliases name extra fallback).aliases.get? key = some kind' := by
  rw [get?_ofAliases name extra fallback hkey, ← Option.ne_none_iff_exists']
  intro hnone
  have hrespelled : respelled extra key = none := by
    refine last?_eq_none_iff.2 fun label hlabel => ?_
    have hnot := last?_eq_none_iff.1 hnone label hlabel
    simp_all
  rw [h] at hrespelled
  cases hrespelled

/-- What the entries that follow the old ones give a label. -/
theorem last?_new_entries {t : Taxonomy} (ht : t.IsBuilt) (extra : List (Text × Kind))
    (key : Text) :
    last? (fun label => label.normalLabel = key)
        ((ofEntries extra).filter fun entry => entry.1 ∉ t.aliases.keys) =
      if key ∈ t.aliases.keys then respelled extra key
      else last? (fun label => label.normalLabel = key) (ofEntries extra) := by
  rw [last?_filter (fun label => label.normalLabel = key) fun label => label ∉ t.aliases.keys]
  split
  next hold =>
    refine last?_congr fun label _ => ?_
    by_cases hlabel : label.normalLabel = key
    · simp [hlabel, ht.isAliasTable.mem_keys_iff hlabel, hold]
    · simp [hlabel]
  next hnew =>
    refine last?_congr fun label _ => ?_
    by_cases hlabel : label.normalLabel = key
    · simp [hlabel, ht.isAliasTable.mem_keys_iff hlabel, hnew]
    · simp [hlabel]

/-- What the old entries give a label, after those that spell it as it is have taken effect. -/
theorem last?_old_entries {t : Taxonomy} (ht : t.IsBuilt) (entries : Table Kind) (key : Text) :
    last? (fun label => label.normalLabel = key) (t.aliases.override entries) =
      (t.aliases.get? key).map fun kind => (entries.get? key).getD kind := by
  have hnodup : (t.aliases.override entries).keys.Nodup := by
    rw [keys_override]
    exact ht.isAliasTable.nodup
  rw [← get?_override, ← last?_eq_get? hnodup]
  refine last?_congr ?_
  intro label hlabel
  rw [keys_override] at hlabel
  rw [ht.isAliasTable.normal label hlabel]

/-- In an extended taxonomy an alias has the kind of its last respelling, or else the kind that the
further aliases give it on their own, or else the old one. A label that is not an alias yet has the
kind that the further aliases give it on their own. -/
theorem get?_extend {t : Taxonomy} (ht : t.IsBuilt) (name : Text) (extra : List (Text × Kind))
    (key : Text) :
    (t.extend name extra).aliases.get? key =
      if key ∈ t.aliases.keys then
        (respelled extra key).or
          (((ofAliases name extra t.fallback).aliases.get? key).or (t.aliases.get? key))
      else (ofAliases name extra t.fallback).aliases.get? key := by
  by_cases hkey : key = []
  · subst hkey
    rw [if_neg ht.isAliasTable.nonempty, extend, ofAliases, get?_normalizeAliases_nil,
      get?_normalizeAliases_nil]
  · have hget : (t.extend name extra).aliases.get? key =
        (if key ∈ t.aliases.keys then respelled extra key
          else last? (fun label => label.normalLabel = key) (ofEntries extra)).or
        ((t.aliases.get? key).map fun kind => ((ofEntries extra).get? key).getD kind) := by
      rw [extend, get?_normalizeAliases _ hkey, putAll_eq ht.isAliasTable.nodup, last?_append,
        last?_new_entries ht, last?_old_entries ht]
    rw [hget]
    split
    next hold =>
      cases hrespelled : respelled extra key with
      | some kind => rfl
      | none =>
        rw [get?_ofAliases_of_respelled_eq_none hkey (ht.isAliasTable.normal key hold) hrespelled]
        obtain ⟨kind, hkind⟩ := mem_keys_iff.1 hold
        rw [hkind]
        cases (ofEntries extra).get? key <;> rfl
    next hnew =>
      rw [get?_ofAliases name extra t.fallback hkey, get?_eq_none_iff.2 hnew, Option.map_none,
        Option.or_none]

theorem mem_keys_extend {t : Taxonomy} (ht : t.IsBuilt) (name : Text) (extra : List (Text × Kind))
    (key : Text) :
    key ∈ (t.extend name extra).aliases.keys ↔
      key ∈ (ofAliases name extra t.fallback).aliases.keys ∨ key ∈ t.aliases.keys := by
  rw [mem_keys_iff, get?_extend ht]
  by_cases hold : key ∈ t.aliases.keys
  · obtain ⟨kind, hkind⟩ := mem_keys_iff.1 hold
    rw [if_pos hold, hkind, ← Option.or_assoc]
    exact iff_of_true ⟨_, Option.or_some⟩ (.inr hold)
  · rw [if_neg hold, ← mem_keys_iff, or_iff_left hold]

/-- The further aliases have their say on a label just if no respelling says otherwise. -/
theorem get?_extend_eq_iff {t : Taxonomy} (ht : t.IsBuilt) (name : Text)
    (extra : List (Text × Kind)) (key : Text) :
    (t.extend name extra).aliases.get? key =
        ((ofAliases name extra t.fallback).aliases.get? key).or (t.aliases.get? key) ↔
      (key ∈ t.aliases.keys → ∀ kind, respelled extra key = some kind →
        (ofAliases name extra t.fallback).aliases.get? key = some kind) := by
  rw [get?_extend ht]
  by_cases hold : key ∈ t.aliases.keys
  · rw [if_pos hold]
    cases hrespelled : respelled extra key with
    | none => simp
    | some kind =>
      have hkey : key ≠ [] := fun heq => ht.isAliasTable.nonempty (heq ▸ hold)
      obtain ⟨kind', hown⟩ :=
        get?_ofAliases_of_respelled_eq_some name t.fallback hkey hrespelled
      simp [hown, hold, eq_comm]
  · rw [if_neg hold, get?_eq_none_iff.2 hold, Option.or_none]
    exact iff_of_true rfl fun h => absurd h hold

/-- The further aliases override the old ones, and add nothing else; except that of an alias they
spell in several ways the last respelling counts. Extending by nothing changes no classification. -/
theorem extend_overrides_iff {t : Taxonomy} (ht : t.IsBuilt) (name : Text)
    (extra : List (Text × Kind)) :
    let own := (ofAliases name extra t.fallback).aliases
    let extended := t.extend name extra
    extended.name = name ∧ extended.fallback = t.fallback ∧
    (∀ key, key ∈ extended.aliases.keys ↔ key ∈ own.keys ∨ key ∈ t.aliases.keys) ∧
    (∀ key, extended.aliases.get? key =
      if key ∈ t.aliases.keys then (respelled extra key).or ((own.get? key).or (t.aliases.get? key))
      else own.get? key) ∧
    (∀ key, extended.aliases.get? key = (own.get? key).or (t.aliases.get? key) ↔
      (key ∈ t.aliases.keys → ∀ kind, respelled extra key = some kind → own.get? key = some kind)) ∧
    (∀ raw, (t.extend name []).classify raw = t.classify raw) := by
  intro own extended
  refine ⟨rfl, rfl, mem_keys_extend ht name extra, get?_extend ht name extra,
    get?_extend_eq_iff ht name extra, ?_⟩
  intro raw
  rw [extend_nil ht]
  rfl

/-! ## Where a respelling counts -/

section Respelled

def oneAlias : Taxonomy := ofAliases "base" [("a", .text)] .unknown

/-- The later of two aliases with one normal form is the one in normal form. -/
def respelledAlias : List (Text × Kind) := [("A", .button), ("a", .icon)]

/-- An extended taxonomy gives the label the kind of the first of the two. -/
theorem extend_overrides_respelledAlias :
    oneAlias.IsBuilt ∧ (oneAlias.extend "more" respelledAlias).aliases.get? "a" = some .button := by
  have hbuilt : oneAlias.IsBuilt := .ofAliases _ _ _
  obtain ⟨-, -, -, hget, -, -⟩ := extend_overrides_iff hbuilt "more" respelledAlias
  refine ⟨hbuilt, ?_⟩
  rw [hget, if_pos (by decide +kernel)]
  decide +kernel

/-- On their own they give it the kind of the second one. -/
theorem extend_breaks_respelledAlias :
    oneAlias.IsBuilt ∧
    (ofAliases "more" respelledAlias oneAlias.fallback).aliases.get? "a" = some .icon ∧
    (oneAlias.extend "more" respelledAlias).aliases.get? "a" ≠ some .icon ∧
    (oneAlias.extend "more" respelledAlias).classify "a" = .button :=
  ⟨.ofAliases _ _ _, by decide +kernel, by decide +kernel, by decide +kernel⟩

end Respelled

end Taxonomy

end Wireframe
