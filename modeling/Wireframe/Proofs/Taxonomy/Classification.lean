import Mathlib.Data.List.Lex
import Wireframe.Proofs.Sorting
import Wireframe.Proofs.Taxonomy.Aliases
import Wireframe.Proofs.Text.Parts

/-!
# Classification by the longest alias

A label means the kind of one of the aliases that stand in it: the longest one, and of the longest
ones the first in the order of code points (`Decides`). This says nothing of an order of the table,
of a look-up or of a search, and it is what classifying comes to (`classify_longest`): the search
through the sorted aliases finds the alias that decides (`search_eq_some_iff`), and where the label
itself is an alias that is the label.
-/
namespace Wireframe

/-! ## The order of texts -/

namespace Text

theorem cons_le_cons_iff {c d : Nat} {a b : Text} : c :: a ≤ d :: b ↔ c < d ∨ c = d ∧ a ≤ b := by
  rw [← not_lt, ← not_lt]
  exact List.cons_le_cons_iff

/-- Texts are sorted by their first difference, a proper initial part coming first. -/
theorem le_iff {a b : Text} : a.le b = true ↔ a ≤ b := by
  induction a generalizing b with
  | nil =>
    cases b with
    | nil => exact iff_of_true rfl le_rfl
    | cons d b => exact iff_of_true rfl (List.nil_lt_cons d b).le
  | cons c a ih =>
    cases b with
    | nil => exact iff_of_false (by simp [le]) (List.nil_lt_cons c a).not_ge
    | cons d b =>
      have hcompare : compare (c :: a) (d :: b) = (compare c d).then (compare a b) :=
        List.compareLex_cons_cons
      rw [cons_le_cons_iff, ← ih, le, hcompare, le]
      rcases lt_trichotomy c d with hlt | heq | hgt
      · rw [Nat.compare_eq_lt.2 hlt]
        simp [hlt]
      · rw [Nat.compare_eq_eq.2 heq]
        simp [heq]
      · rw [Nat.compare_eq_gt.2 hgt]
        simp [hgt.ne', hgt.not_gt]

end Text

namespace Taxonomy

open Table

/-! ## The order of aliases -/

/-- Of two aliases the longer one counts, of two of one length the first by code points. -/
def Outranks (a b : Text) : Prop := b.length < a.length ∨ a.length = b.length ∧ a ≤ b

instance (a b : Text) : Decidable (Outranks a b) := inferInstanceAs (Decidable (_ ∨ _))

theorem precedes_iff {a b : Text × Kind} : precedes a b = true ↔ Outranks a.1 b.1 := by
  simp [precedes, Outranks, Text.le_iff]

theorem Outranks.trans {a b c : Text} (hab : Outranks a b) (hbc : Outranks b c) :
    Outranks a c := by
  rcases hab with hab | ⟨hab, hle⟩ <;> rcases hbc with hbc | ⟨hbc, hle'⟩
  · exact .inl (hbc.trans hab)
  · exact .inl (hbc ▸ hab)
  · exact .inl (hab ▸ hbc)
  · exact .inr ⟨hab.trans hbc, hle.trans hle'⟩

theorem Outranks.antisymm {a b : Text} (hab : Outranks a b) (hba : Outranks b a) : a = b := by
  rcases hab with hab | ⟨hab, hle⟩ <;> rcases hba with hba | ⟨hba, hle'⟩
  · omega
  · omega
  · omega
  · exact le_antisymm hle hle'

theorem outranks_total (a b : Text) : Outranks a b ∨ Outranks b a := by
  rcases lt_trichotomy a.length b.length with hlt | heq | hgt
  · exact .inr (.inl hlt)
  · exact (le_total a b).imp (fun h => .inr ⟨heq, h⟩) fun h => .inr ⟨heq.symm, h⟩
  · exact .inl (.inl hgt)

/-- A label outranks whatever stands in it. -/
theorem outranks_of_isInfix {label part : Text} (h : part <:+: label) : Outranks label part := by
  rcases h.length_le.lt_or_eq with hlt | heq
  · exact .inl hlt
  · exact .inr ⟨heq.symm, (h.eq_of_length heq).ge⟩

theorem precedes_trans (a b c : Text × Kind) (hab : precedes a b) (hbc : precedes b c) :
    precedes a c :=
  precedes_iff.2 ((precedes_iff.1 hab).trans (precedes_iff.1 hbc))

theorem precedes_total (a b : Text × Kind) : precedes a b || precedes b a := by
  rw [Bool.or_eq_true, precedes_iff, precedes_iff]
  exact outranks_total a.1 b.1

/-! ## The alias that decides -/

/-- The alias stands in the label, and no other one that does outranks it. -/
structure Decides (t : Taxonomy) (label part : Text) : Prop where
  mem : part ∈ t.aliases.keys
  occurs : part <:+: label
  outranks : ∀ other ∈ t.aliases.keys, other <:+: label → Outranks part other

theorem Decides.unique {t : Taxonomy} {label part part' : Text} (h : t.Decides label part)
    (h' : t.Decides label part') : part = part' :=
  (h.outranks part' h'.mem h'.occurs).antisymm (h'.outranks part h.mem h.occurs)

/-- An alias decides what it means itself. -/
theorem decides_self {t : Taxonomy} {label : Text} (h : label ∈ t.aliases.keys) :
    t.Decides label label :=
  ⟨h, List.infix_rfl, fun _ _ => outranks_of_isInfix⟩

/-- The kind that a label in normal form means. -/
inductive Means (t : Taxonomy) (label : Text) : Kind → Prop where
  /-- The label is empty, or no alias stands in it. -/
  | fallback (h : label = [] ∨ ∀ part ∈ t.aliases.keys, ¬part <:+: label) : Means t label t.fallback
  /-- An alias decides. -/
  | decided {part : Text} {kind : Kind} (hlabel : label ≠ []) (hpart : t.Decides label part)
    (hkind : t.aliases.get? part = some kind) : Means t label kind

theorem Means.unique {t : Taxonomy} {label : Text} {kind kind' : Kind} (h : t.Means label kind)
    (h' : t.Means label kind') : kind = kind' := by
  have hnot {part : Text} (hlabel : label ≠ []) (hpart : t.Decides label part) :
      ¬(label = [] ∨ ∀ part ∈ t.aliases.keys, ¬part <:+: label) := fun h =>
    h.elim hlabel fun hnone => hnone part hpart.mem hpart.occurs
  cases h with
  | fallback hnone =>
    cases h' with
    | fallback _ => rfl
    | decided hlabel hpart _ => exact absurd hnone (hnot hlabel hpart)
  | decided hlabel hpart hkind =>
    cases h' with
    | fallback hnone => exact absurd hnone (hnot hlabel hpart)
    | decided _ hpart' hkind' =>
      rw [hpart.unique hpart', hkind'] at hkind
      exact (Option.some.inj hkind).symm

/-- What a label means does not depend on the order of the aliases. -/
theorem Means.perm {t : Taxonomy} (hnodup : t.aliases.keys.Nodup) {entries : Table Kind}
    (hperm : t.aliases.Perm entries) {label : Text} {kind : Kind} (h : t.Means label kind) :
    Means { t with aliases := entries } label kind := by
  have hkeys (key : Text) : key ∈ entries.keys ↔ key ∈ t.aliases.keys := (hperm.map _).mem_iff.symm
  cases h with
  | fallback hnone =>
    exact .fallback (hnone.imp_right fun hnone part hmem => hnone part ((hkeys part).1 hmem))
  | @decided part _ hlabel hpart hkind =>
    have hpart' : Decides { t with aliases := entries } label part := by
      refine ⟨(hkeys part).2 hpart.mem, hpart.occurs, ?_⟩
      intro other hmem
      exact hpart.outranks other ((hkeys other).1 hmem)
    rw [get?_eq_of_perm hnodup hperm] at hkind
    exact .decided hlabel hpart' hkind

/-! ## Searching -/

/-- The first alias in the order of the search that stands in the label. -/
def search (t : Taxonomy) (label : Text) : Option (Text × Kind) :=
  t.inSearchOrder.find? fun (part, _) => part.occursIn label

theorem classify_eq (t : Taxonomy) (raw : Text) :
    t.classify raw =
      if raw.normalLabel.isEmpty then t.fallback
      else ((t.aliases.get? raw.normalLabel).or ((t.search raw.normalLabel).map (·.2))).getD
        t.fallback := by
  rw [classify, search]
  cases t.aliases.get? raw.normalLabel <;> rfl

theorem search_eq_none_iff {t : Taxonomy} {label : Text} :
    t.search label = none ↔ ∀ part ∈ t.aliases.keys, ¬part <:+: label := by
  rw [search, List.find?_eq_none, keys, List.forall_mem_map]
  simp only [inSearchOrder, List.mem_mergeSort, Text.occursIn_iff]

theorem decides_of_search {t : Taxonomy} {label part : Text} {kind : Kind}
    (h : t.search label = some (part, kind)) :
    t.Decides label part ∧ t.aliases.get? part = some kind := by
  obtain ⟨hmem, hoccurs, hleast⟩ := least_of_find?_mergeSort precedes_trans precedes_total h
  rw [Text.occursIn_iff] at hoccurs
  refine ⟨⟨List.mem_map.2 ⟨_, hmem, rfl⟩, hoccurs, ?_⟩, ?_⟩
  · intro other hother hstands
    obtain ⟨entry, hentry, rfl⟩ := List.mem_map.1 hother
    exact precedes_iff.1 (hleast entry hentry (Text.occursIn_iff.2 hstands))
  · -- Entries with one key tie, so that the search finds the first of them, as a look-up does.
    have hfirst : t.aliases.find? (fun entry => entry.1 = part) = some (part, kind) := by
      refine find?_eq_of_find?_mergeSort precedes_trans precedes_total ?_ ?_ h (by simp)
      · rintro ⟨part', kind'⟩ heq
        have heq : part' = part := of_decide_eq_true heq
        rw [heq]
        exact Text.occursIn_iff.2 hoccurs
      · intro a b ha hb
        rw [decide_eq_true_eq] at ha hb
        rw [precedes_iff, ha, hb]
        exact outranks_of_isInfix List.infix_rfl
    rw [get?_eq_find?, hfirst]
    rfl

theorem search_eq_some_iff {t : Taxonomy} {label part : Text} {kind : Kind} :
    t.search label = some (part, kind) ↔
      t.Decides label part ∧ t.aliases.get? part = some kind := by
  refine ⟨decides_of_search, ?_⟩
  rintro ⟨hpart, hkind⟩
  cases hsearch : t.search label with
  | none => exact absurd hpart.occurs (search_eq_none_iff.1 hsearch part hpart.mem)
  | some found =>
    obtain ⟨part', kind'⟩ := found
    obtain ⟨hpart', hkind'⟩ := decides_of_search hsearch
    rw [hpart.unique hpart'] at hkind ⊢
    rw [hkind', Option.some.injEq] at hkind
    rw [hkind]

/-- The look-up of a label that is an alias agrees with the search. -/
theorem search_of_get? {t : Taxonomy} {label : Text} {kind : Kind}
    (h : t.aliases.get? label = some kind) : t.search label = some (label, kind) :=
  search_eq_some_iff.2 ⟨decides_self (mem_keys_iff.2 ⟨kind, h⟩), h⟩

theorem means_classify (t : Taxonomy) (raw : Text) : t.Means raw.normalLabel (t.classify raw) := by
  have hsearch : (t.aliases.get? raw.normalLabel).or ((t.search raw.normalLabel).map (·.2)) =
      (t.search raw.normalLabel).map (·.2) := by
    cases hget : t.aliases.get? raw.normalLabel with
    | none => rfl
    | some kind => rw [search_of_get? hget]; rfl
  rw [classify_eq, hsearch]
  split
  next hempty => exact .fallback (.inl (List.isEmpty_iff.1 hempty))
  next hempty =>
    cases hfound : t.search raw.normalLabel with
    | none => exact .fallback (.inr (search_eq_none_iff.1 hfound))
    | some found =>
      obtain ⟨hpart, hkind⟩ := decides_of_search hfound
      exact .decided (fun h => hempty (List.isEmpty_iff.2 h)) hpart hkind

/-- A label means the kind of the longest alias that stands in it, the first by code points of the
longest, or else the fallback. So it does not matter whether an alias is looked up or searched for,
nor in which order the aliases were entered. -/
theorem classify_longest (t : Taxonomy) (raw : Text) :
    (∀ kind, t.classify raw = kind ↔ t.Means raw.normalLabel kind) ∧
    (∀ label kind, t.aliases.get? label = some kind →
      (t.inSearchOrder.find? fun (part, _) => part.occursIn label) = some (label, kind)) ∧
    (t.IsBuilt → ∀ entries, t.aliases.Perm entries →
      classify { t with aliases := entries } raw = t.classify raw) := by
  refine ⟨?_, ?_, ?_⟩
  · intro kind
    constructor
    · rintro rfl
      exact means_classify t raw
    · exact (means_classify t raw).unique
  · intro label kind
    exact search_of_get?
  · intro hbuilt entries hperm
    have hmeans := (means_classify t raw).perm hbuilt.isAliasTable.nodup hperm
    exact (means_classify _ raw).unique hmeans

/-- Some aliases, and a label in which both of them stand. -/
theorem classify_longest_reversed :
    let t := (ofAliases "base" [("Box", .container)] .unknown).extend "more"
      [("Check-Box", .checkbox)]
    t.aliases.Perm t.aliases.reverse ∧
      classify { t with aliases := t.aliases.reverse } "A check_BOX" = t.classify "A check_BOX" ∧
      t.classify "A check_BOX" = .checkbox := by
  intro t
  have hbuilt : t.IsBuilt := .extend (.ofAliases _ _ _) _ _
  have hperm : t.aliases.Perm t.aliases.reverse := (List.reverse_perm _).symm
  obtain ⟨hmeans, -, horder⟩ := classify_longest t "A check_BOX"
  refine ⟨hperm, horder hbuilt _ hperm, (hmeans .checkbox).2 ?_⟩
  have haliases : t.aliases =
      ([("box", .container), ("check box", .checkbox)] : List (Text × Kind)) := by
    decide +kernel
  have hlabel : Text.normalLabel "A check_BOX" = "a check box" := by decide +kernel
  have hdecides : t.Decides "a check box" "check box" := by
    refine ⟨?_, by decide +kernel, ?_⟩
    · rw [haliases]
      decide +kernel
    · rw [haliases]
      decide +kernel
  have hkind : t.aliases.get? "check box" = some .checkbox := by
    rw [haliases]
    decide +kernel
  rw [hlabel]
  exact .decided (by decide +kernel) hdecides hkind

end Taxonomy

end Wireframe
