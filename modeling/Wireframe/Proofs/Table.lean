import Mathlib.Data.List.Induction
import Mathlib.Data.List.Nodup
import Wireframe.Table

/-!
# Tables

What a table finds for a key (`get?_eq_find?`, `get?_eq_of_perm`), the last value among several keys
(`last?`), and what a table is after other entries were made (`putAll_eq`): values are replaced
where their keys stand, and new keys follow.
-/
namespace Wireframe

namespace Table

variable {α : Type}

/-! ## Look-ups -/

theorem get?_eq_find? (t : Table α) (key : Text) :
    t.get? key = (t.find? fun entry => entry.1 = key).map (·.2) := by
  induction t with
  | nil => rfl
  | cons entry rest ih =>
    obtain ⟨k, v⟩ := entry
    rw [get?_cons]
    by_cases hk : key = k
    · rw [if_pos hk, List.find?_cons_of_pos (by simp [hk])]
      rfl
    · rw [if_neg hk, List.find?_cons_of_neg (by simp [Ne.symm hk]), ih]

theorem get?_eq_none_iff {t : Table α} {key : Text} : t.get? key = none ↔ key ∉ t.keys := by
  rw [get?_eq_find?, Option.map_eq_none_iff, List.find?_eq_none, keys, List.mem_map]
  simp only [decide_eq_true_eq, not_exists, not_and]

theorem mem_keys_iff {t : Table α} {key : Text} :
    key ∈ t.keys ↔ ∃ value, t.get? key = some value := by
  rw [← not_iff_not, ← get?_eq_none_iff, Option.eq_none_iff_forall_ne_some, not_exists]

/-- Where keys are distinct, a look-up finds every entry. -/
theorem get?_eq_some_iff {t : Table α} (h : t.keys.Nodup) {key : Text} {value : α} :
    t.get? key = some value ↔ (key, value) ∈ t := by
  induction t with
  | nil => simp
  | cons entry rest ih =>
    obtain ⟨k, v⟩ := entry
    simp only [keys, List.map_cons, List.nodup_cons] at h
    rw [get?_cons, List.mem_cons, Prod.mk.injEq, ← ih h.2]
    by_cases hk : key = k
    · subst hk
      have hrest : get? rest key = none := get?_eq_none_iff.2 h.1
      simp [hrest, eq_comm]
    · simp [hk]

theorem get?_eq_of_perm {t t' : Table α} (h : t.keys.Nodup) (hperm : t.Perm t') (key : Text) :
    t.get? key = t'.get? key := by
  have h' : t'.keys.Nodup := (hperm.map _).nodup_iff.1 h
  ext value
  rw [get?_eq_some_iff h, get?_eq_some_iff h', hperm.mem_iff]

theorem keys_append (t t' : Table α) : keys (t ++ t') = t.keys ++ t'.keys := List.map_append

/-! ## Last values -/

/-- The value of the last entry whose key satisfies `p`. -/
def last? (p : Text → Bool) : Table α → Option α
  | [] => none
  | (key, value) :: rest => (last? p rest).or (if p key then some value else none)

theorem last?_append (p : Text → Bool) (t t' : Table α) :
    last? p (t ++ t') = (last? p t').or (last? p t) := by
  induction t with
  | nil => simp [last?]
  | cons entry rest ih =>
    obtain ⟨key, value⟩ := entry
    rw [List.cons_append, last?, last?, ih, Option.or_assoc]

theorem last?_congr {p q : Text → Bool} {t : Table α} (h : ∀ key ∈ t.keys, p key = q key) :
    last? p t = last? q t := by
  induction t with
  | nil => rfl
  | cons entry rest ih =>
    obtain ⟨key, value⟩ := entry
    simp only [keys, List.map_cons, List.forall_mem_cons] at h
    rw [last?, last?, ih h.2, h.1]

theorem last?_eq_none_iff {p : Text → Bool} {t : Table α} :
    last? p t = none ↔ ∀ key ∈ t.keys, p key = false := by
  induction t with
  | nil => simp [last?, keys]
  | cons entry rest ih =>
    obtain ⟨key, value⟩ := entry
    simp only [keys, List.map_cons, List.forall_mem_cons]
    rw [last?, Option.or_eq_none_iff, ih, and_comm]
    simp [keys]

theorem exists_of_last?_eq_some {p : Text → Bool} {t : Table α} {value : α}
    (h : last? p t = some value) : ∃ key, (key, value) ∈ t ∧ p key = true := by
  induction t with
  | nil => cases h
  | cons entry rest ih =>
    obtain ⟨key, v⟩ := entry
    rw [last?, Option.or_eq_some_iff] at h
    rcases h with hrest | ⟨-, hfirst⟩
    · obtain ⟨k, hmem, hk⟩ := ih hrest
      exact ⟨k, List.mem_cons_of_mem _ hmem, hk⟩
    · split at hfirst
      next hkey =>
        cases hfirst
        exact ⟨key, List.mem_cons_self, hkey⟩
      next => cases hfirst

theorem last?_filter (p q : Text → Bool) (t : Table α) :
    last? p (t.filter fun entry => q entry.1) = last? (fun key => p key && q key) t := by
  induction t with
  | nil => rfl
  | cons entry rest ih =>
    obtain ⟨key, value⟩ := entry
    rw [List.filter_cons]
    cases hq : q key with
    | true => simp only [if_true, last?, ih, hq, Bool.and_true]
    | false => simp [last?, ih, hq]

/-- With distinct keys the last entry of a key is the only one. -/
theorem last?_eq_get? {t : Table α} (h : t.keys.Nodup) (key : Text) :
    last? (fun k => k = key) t = t.get? key := by
  induction t with
  | nil => rfl
  | cons entry rest ih =>
    obtain ⟨k, v⟩ := entry
    simp only [keys, List.map_cons, List.nodup_cons] at h
    rw [last?, ih h.2, get?_cons]
    by_cases hk : key = k
    · subst hk
      have hrest : get? rest key = none := get?_eq_none_iff.2 h.1
      simp [hrest]
    · simp [hk, Ne.symm hk]

/-! ## Entering many -/

theorem keys_nodup_putAll {t : Table α} (h : t.keys.Nodup) (entries : List (Text × α)) :
    (t.putAll entries).keys.Nodup := by
  induction entries generalizing t with
  | nil => exact h
  | cons entry rest ih => exact ih (keys_nodup_put h entry.1 entry.2)

theorem mem_of_mem_put {t : Table α} {key : Text} {value : α} {entry : Text × α}
    (h : entry ∈ t.put key value) : entry ∈ t ∨ entry = (key, value) := by
  induction t with
  | nil => exact .inr (List.mem_singleton.1 h)
  | cons first rest ih =>
    obtain ⟨k, v⟩ := first
    rw [put] at h
    split at h
    next hk =>
      rcases List.mem_cons.1 h with rfl | hmem
      · exact .inr (by rw [hk])
      · exact .inl (List.mem_cons_of_mem _ hmem)
    next =>
      rcases List.mem_cons.1 h with rfl | hmem
      · exact .inl List.mem_cons_self
      · exact (ih hmem).imp_left (List.mem_cons_of_mem _)

/-- Nothing stands in a table but what was entered. -/
theorem mem_of_mem_putAll {t : Table α} {entries : List (Text × α)} {entry : Text × α}
    (h : entry ∈ t.putAll entries) : entry ∈ t ∨ entry ∈ entries := by
  induction entries generalizing t with
  | nil => exact .inl h
  | cons first rest ih =>
    rcases ih h with hput | hrest
    · rcases mem_of_mem_put hput with hmem | rfl
      · exact .inl hmem
      · exact .inr List.mem_cons_self
    · exact .inr (List.mem_cons_of_mem _ hrest)

theorem put_append (t t' : Table α) (key : Text) (value : α) :
    put (t ++ t') key value =
      if key ∈ t.keys then t.put key value ++ t' else t ++ t'.put key value := by
  induction t with
  | nil => simp [keys]
  | cons entry rest ih =>
    obtain ⟨k, v⟩ := entry
    rw [List.cons_append, put, put, ih]
    by_cases hk : k = key
    · simp [keys, hk]
    · by_cases hmem : key ∈ keys rest
      · have hcons : key ∈ keys ((k, v) :: rest) := List.mem_cons_of_mem k hmem
        simp [hk, hmem, hcons]
      · have hcons : key ∉ keys ((k, v) :: rest) := by
          intro h
          exact (List.mem_cons.1 h).elim (Ne.symm hk) hmem
        simp [hk, hmem, hcons]

theorem filter_put (q : Text → Bool) (t : Table α) (key : Text) (value : α) :
    (t.put key value).filter (fun entry => q entry.1) =
      if q key then put (t.filter fun entry => q entry.1) key value
      else t.filter fun entry => q entry.1 := by
  induction t with
  | nil => cases hq : q key <;> simp [put, hq]
  | cons entry rest ih =>
    obtain ⟨k, v⟩ := entry
    rw [put, List.filter_cons]
    by_cases hk : k = key
    · subst hk
      cases hq : q k <;> simp [hq, put]
    · cases hq : q key <;> cases hqk : q k <;> simp_all [put]

/-- The table with the values that other entries have for its keys. -/
def override (t entries : Table α) : Table α :=
  t.map fun entry => (entry.1, (entries.get? entry.1).getD entry.2)

theorem keys_override (t entries : Table α) : (t.override entries).keys = t.keys := by
  simp [override, keys]

theorem get?_override (t entries : Table α) (key : Text) :
    (t.override entries).get? key =
      (t.get? key).map fun value => (entries.get? key).getD value := by
  induction t with
  | nil => rfl
  | cons entry rest ih =>
    obtain ⟨k, v⟩ := entry
    rw [override, List.map_cons, get?_cons, get?_cons, ← override, ih]
    by_cases hk : key = k
    · simp [hk]
    · simp [hk]

theorem override_put_of_not_mem {t : Table α} {key : Text} (h : key ∉ t.keys) (entries : Table α)
    (value : α) : t.override (entries.put key value) = t.override entries := by
  refine List.map_congr_left ?_
  intro entry hentry
  have hne : entry.1 ≠ key := fun heq => h (List.mem_map.2 ⟨entry, hentry, heq⟩)
  rw [get?_put, if_neg hne]

theorem put_override_of_mem {t : Table α} (hnodup : t.keys.Nodup) {key : Text} (h : key ∈ t.keys)
    (entries : Table α) (value : α) :
    (t.override entries).put key value = t.override (entries.put key value) := by
  induction t with
  | nil => exact absurd h List.not_mem_nil
  | cons entry rest ih =>
    obtain ⟨k, v⟩ := entry
    obtain ⟨hnot, hrest⟩ := List.nodup_cons.1 hnodup
    rw [override, override, List.map_cons, List.map_cons, ← override, ← override, put, get?_put]
    by_cases hk : k = key
    · subst hk
      rw [if_pos rfl, if_pos rfl, Option.getD_some, override_put_of_not_mem hnot]
    · have hmem : key ∈ keys rest := (List.mem_cons.1 h).resolve_left (Ne.symm hk)
      rw [if_neg hk, if_neg hk, ih hrest hmem]

/-- Entries replace the values of the keys that are there, and follow otherwise. -/
theorem putAll_eq {t : Table α} (h : t.keys.Nodup) (entries : List (Text × α)) :
    t.putAll entries = t.override (ofEntries entries) ++
      (ofEntries entries).filter fun entry => entry.1 ∉ t.keys := by
  induction entries using List.reverseRecOn with
  | nil => simp [ofEntries, putAll, override]
  | append_singleton entries entry ih =>
    obtain ⟨key, value⟩ := entry
    have hput (s : Table α) :
        s.putAll (entries ++ [(key, value)]) = (s.putAll entries).put key value :=
      List.foldl_append
    have hfilter := filter_put (fun k => k ∉ t.keys) (ofEntries entries) key value
    have hentries : ofEntries (entries ++ [(key, value)]) = (ofEntries entries).put key value :=
      hput []
    rw [hput, ih, hentries, put_append, keys_override, hfilter]
    by_cases hmem : key ∈ t.keys
    · simp only [hmem, if_true, not_true, decide_false, put_override_of_mem h hmem]
      simp
    · simp only [hmem, if_false, not_false_eq_true, decide_true, if_true,
        override_put_of_not_mem hmem]

end Table

end Wireframe
