/-!
# Sorting and searching

What a sort by a total preorder keeps of the order of the elements (`filter_mergeSort`), why it has
no choice beyond that (`eq_of_filter_eq`), and what a search through the sorted list finds: the
least of the elements looked for (`least_of_find?_mergeSort`), and of equally small ones the first
(`find?_eq_of_find?_mergeSort`).
-/
namespace Wireframe

section Sorting

variable {α : Type} {le : α → α → Bool}

/-- Sorting leaves the elements of a class in their order if they are all equal in rank. -/
theorem filter_mergeSort (trans : ∀ a b c, le a b → le b c → le a c)
    (total : ∀ a b, le a b || le b a) (p : α → Bool) (tied : ∀ a b, p a → p b → le a b)
    (l : List α) : (l.mergeSort le).filter p = l.filter p := by
  have hp : (l.filter p).Pairwise (fun a b => le a b) := by
    rw [List.pairwise_filter]
    exact List.pairwise_of_forall fun a b ha hb => tied a b ha hb
  have hsub : (l.filter p).Sublist (l.mergeSort le) :=
    List.sublist_mergeSort trans total hp List.filter_sublist
  have hsub' : (l.filter p).Sublist ((l.mergeSort le).filter p) := by
    simpa using hsub.filter p
  have hlen : (l.filter p).length = ((l.mergeSort le).filter p).length :=
    ((List.mergeSort_perm l le).filter p).length_eq.symm
  exact (hsub'.eq_of_length hlen).symm

/-- Two orders of the same elements have the same sorted list if no two elements tie. -/
theorem mergeSort_eq_of_perm (trans : ∀ a b c, le a b → le b c → le a c)
    (total : ∀ a b, le a b || le b a) {l l' : List α}
    (antisymm : ∀ a ∈ l, ∀ b ∈ l, le a b → le b a → a = b) (h : l.Perm l') :
    l.mergeSort le = l'.mergeSort le := by
  have hperm : (l.mergeSort le).Perm (l'.mergeSort le) :=
    (List.mergeSort_perm l le).trans (h.trans (List.mergeSort_perm l' le).symm)
  refine hperm.eq_of_pairwise ?_ (List.pairwise_mergeSort trans total l)
    (List.pairwise_mergeSort trans total l')
  intro a b ha hb hab hba
  exact antisymm a (List.mem_mergeSort.1 ha) b (h.mem_iff.2 (List.mem_mergeSort.1 hb)) hab hba

/-- The first element of a sorted list is a least one. -/
theorem le_of_mem_sorted (total : ∀ a b, le a b || le b a) {a b : α} {rest : List α}
    (h : (a :: rest).Pairwise fun a b => le a b) (hb : b ∈ a :: rest) : le a b := by
  rcases List.mem_cons.1 hb with rfl | hb
  · simpa using total b b
  · exact List.rel_of_pairwise_cons h hb

section Keys

variable {κ : Type} [DecidableEq κ] {key : α → κ} {l l' : List α}

theorem mem_of_filter_eq
    (h : ∀ k, l.filter (fun a => key a = k) = l'.filter fun a => key a = k) {a : α}
    (ha : a ∈ l) : a ∈ l' := by
  have hfilter : a ∈ l.filter fun b => key b = key a := List.mem_filter.2 ⟨ha, by simp⟩
  rw [h] at hfilter
  exact (List.mem_filter.1 hfilter).1

/-- A sorted list is known from its elements of each key, in their order. -/
theorem eq_of_filter_eq (total : ∀ a b, le a b || le b a)
    (antisymm : ∀ a b, le a b → le b a → key a = key b)
    (hl : l.Pairwise fun a b => le a b) (hl' : l'.Pairwise fun a b => le a b)
    (h : ∀ k, l.filter (fun a => key a = k) = l'.filter fun a => key a = k) : l = l' := by
  induction l generalizing l' with
  | nil =>
    refine (List.eq_nil_iff_forall_not_mem.2 fun a ha => ?_).symm
    exact List.not_mem_nil (mem_of_filter_eq (fun k => (h k).symm) ha)
  | cons a rest ih =>
    match l' with
    | [] => exact absurd (mem_of_filter_eq h List.mem_cons_self) List.not_mem_nil
    | b :: rest' =>
      -- Both heads are least, so they have one key, and each is the first of that key.
      have hkey : key b = key a := antisymm b a
        (le_of_mem_sorted total hl' (mem_of_filter_eq h List.mem_cons_self))
        (le_of_mem_sorted total hl (mem_of_filter_eq (fun k => (h k).symm) List.mem_cons_self))
      have hfirst := h (key a)
      rw [List.filter_cons_of_pos (by simp), List.filter_cons_of_pos (by simp [hkey])] at hfirst
      obtain ⟨rfl, -⟩ := List.cons.inj hfirst
      congr 1
      apply ih (List.pairwise_cons.1 hl).2 (List.pairwise_cons.1 hl').2
      intro k
      have hk := h k
      by_cases hak : key a = k <;> simpa [List.filter_cons, hak] using hk

end Keys

/-- What a search through the sorted list finds is the least of the elements that satisfy `p`. -/
theorem least_of_find?_mergeSort (trans : ∀ a b c, le a b → le b c → le a c)
    (total : ∀ a b, le a b || le b a) {p : α → Bool} {l : List α} {a : α}
    (h : (l.mergeSort le).find? p = some a) : a ∈ l ∧ p a ∧ ∀ b ∈ l, p b → le a b := by
  obtain ⟨hp, front, back, hsplit, hfront⟩ := List.find?_eq_some_iff_append.1 h
  have hsorted := List.pairwise_mergeSort trans total l
  rw [hsplit, List.pairwise_append] at hsorted
  obtain ⟨-, hback, -⟩ := hsorted
  have hmem {b : α} : b ∈ l ↔ b ∈ front ∨ b ∈ a :: back := by
    have hsame : b ∈ l.mergeSort le ↔ b ∈ l := List.mem_mergeSort
    rw [← hsame, hsplit, List.mem_append]
  refine ⟨hmem.2 (.inr List.mem_cons_self), hp, ?_⟩
  intro b hb hpb
  rcases hmem.1 hb with hb | hb
  · have hnot := hfront b hb
    rw [hpb] at hnot
    cases hnot
  · exact le_of_mem_sorted total hback hb

/-- Of a class of elements that tie, it finds the first one of the list as it was. -/
theorem find?_eq_of_find?_mergeSort (trans : ∀ a b c, le a b → le b c → le a c)
    (total : ∀ a b, le a b || le b a) {p q : α → Bool} (himp : ∀ a, q a → p a)
    (tied : ∀ a b, q a → q b → le a b) {l : List α} {a : α}
    (h : (l.mergeSort le).find? p = some a) (ha : q a) : l.find? q = some a := by
  obtain ⟨-, front, back, hsplit, hfront⟩ := List.find?_eq_some_iff_append.1 h
  have hsorted : (l.mergeSort le).find? q = some a := by
    refine List.find?_eq_some_iff_append.2 ⟨ha, front, back, hsplit, ?_⟩
    intro b hb
    have hnot := hfront b hb
    cases hq : q b with
    | false => rfl
    | true => simp [himp b hq] at hnot
  rw [← List.head?_filter, filter_mergeSort trans total q tied, List.head?_filter] at hsorted
  exact hsorted

end Sorting

end Wireframe
