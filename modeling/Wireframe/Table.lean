import Wireframe.Text.Basic

/-!
# Tables

A table gives values to texts. It is the list of its entries; each key stands in it once, in the
order of its first entry, with the value of its last.

Main statements: `get?_put` says what a look-up finds after an entry, `keys_nodup_put` that keys
stay distinct.
-/
namespace Wireframe

abbrev Table (α : Type) := List (Text × α)

namespace Table

variable {α : Type}

def keys (t : Table α) : List Text := t.map (·.1)

def get? (t : Table α) (key : Text) : Option α := t.lookup key

/-- Enters a value: in the place of the key if it stands in the table, else at the end. -/
def put : Table α → Text → α → Table α
  | [], key, value => [(key, value)]
  | (k, v) :: rest, key, value =>
    if k = key then (k, value) :: rest else (k, v) :: put rest key value

/-- Enters the entries one after another. -/
def putAll (t : Table α) (entries : List (Text × α)) : Table α :=
  entries.foldl (fun t (key, value) => t.put key value) t

def ofEntries (entries : List (Text × α)) : Table α := putAll [] entries

@[simp] theorem get?_nil (key : Text) : get? ([] : Table α) key = none := rfl

theorem get?_cons (k : Text) (v : α) (t : Table α) (key : Text) :
    get? ((k, v) :: t) key = if key = k then some v else t.get? key := by
  simp only [get?, List.lookup_cons]
  by_cases h : key = k
  · simp [h]
  · simp [h, beq_eq_false_iff_ne.2 h]

theorem get?_put (t : Table α) (key : Text) (value : α) (k : Text) :
    (t.put key value).get? k = if k = key then some value else t.get? k := by
  induction t with
  | nil => simp [put, get?_cons]
  | cons entry rest ih =>
    obtain ⟨k', v'⟩ := entry
    simp only [put]
    split
    · subst_vars; simp only [get?_cons]; split <;> rfl
    · simp only [get?_cons, ih]
      split
      · subst_vars; simp_all
      · rfl

theorem mem_keys_put (t : Table α) (key : Text) (value : α) (k : Text) :
    k ∈ (t.put key value).keys ↔ k = key ∨ k ∈ t.keys := by
  induction t with
  | nil => simp [put, keys]
  | cons entry rest ih =>
    obtain ⟨k', v'⟩ := entry
    simp only [put]
    split
    · subst_vars; simp [keys]
    · simp only [keys, List.map_cons, List.mem_cons] at *
      rw [ih]
      exact or_left_comm

theorem keys_nodup_put {t : Table α} (h : t.keys.Nodup) (key : Text) (value : α) :
    (t.put key value).keys.Nodup := by
  induction t with
  | nil => simp [put, keys]
  | cons entry rest ih =>
    obtain ⟨k', v'⟩ := entry
    simp only [keys, List.map_cons, List.nodup_cons] at h
    simp only [put]
    split
    · simpa [keys] using h
    · rename_i hne
      simp only [keys, List.map_cons, List.nodup_cons]
      refine ⟨fun hm => ?_, ih h.2⟩
      rcases (mem_keys_put rest key value k').1 hm with e | e
      · exact hne e
      · exact h.1 e

end Table

end Wireframe
