import Wireframe.Proofs.Reading.Rows

/-!
# Elements that tie

Of elements that tie, rows keep the order in which they are given, and nothing else of the order of
the elements matters: two lists have the same rows exactly if they agree in their ties
(`groupRows_eq_iff`). The reading order agrees with the elements in this, so it is not changed when
it is put into rows again.

Main statement: `groupRows_readingOrder`.
-/
namespace Wireframe

section Elements

variable {α : Type} (d : α → Detection)

/-- Two lists have the same elements of every key, in the same order. -/
def SameTies (l l' : List α) : Prop :=
  ∀ k : Detection.Key, l.filter (fun a => (d a).key = k) = l'.filter fun a => (d a).key = k

section Ties

variable {d} {l l' l'' : List α}

theorem SameTies.symm (h : SameTies d l l') : SameTies d l' l := fun k => (h k).symm

theorem SameTies.trans (h : SameTies d l l') (h' : SameTies d l' l'') : SameTies d l l'' :=
  fun k => (h k).trans (h' k)

theorem SameTies.append {m m' : List α} (h : SameTies d l l') (h' : SameTies d m m') :
    SameTies d (l ++ m) (l' ++ m') := by
  intro k
  rw [List.filter_append, List.filter_append, h k, h' k]

end Ties

theorem sameTies_sortVertically (l : List α) : SameTies d (l.mergeSort (verticalOrder d)) l :=
  fun k => filter_sortVertically d k l

/-- There is one way to put elements in vertical order that leaves ties alone. -/
theorem sortVertically_eq {l sorted : List α}
    (hsorted : sorted.Pairwise fun a b => verticalOrder d a b) (h : SameTies d l sorted) :
    l.mergeSort (verticalOrder d) = sorted := by
  have hkey (a b : α) (hab : verticalOrder d a b) (hba : verticalOrder d b a) :
      (d a).key = (d b).key := key_eq_of_verticalOrder d hab hba
  have hties : SameTies d (l.mergeSort (verticalOrder d)) sorted :=
    (sameTies_sortVertically d l).trans h
  exact eq_of_filter_eq (verticalOrder_total d) hkey (pairwise_sortVertically d l) hsorted hties

variable (threshold : Binary64) (strategy : RowStrategy)

theorem sameTies_readingOrder (elements : List α) :
    SameTies d (readingOrder d threshold strategy elements) elements :=
  fun k => filter_readingOrder d threshold strategy k elements

/-- Rows tell apart just the lists that differ in their ties. -/
theorem groupRows_eq_iff {l l' : List α} :
    groupRows d threshold strategy l = groupRows d threshold strategy l' ↔ SameTies d l l' := by
  constructor
  · intro h
    have horder : readingOrder d threshold strategy l = readingOrder d threshold strategy l' :=
      congrArg List.flatten h
    have hties := sameTies_readingOrder d threshold strategy l
    rw [horder] at hties
    exact hties.symm.trans (sameTies_readingOrder d threshold strategy l')
  · intro h
    have hsort : l.mergeSort (verticalOrder d) = l'.mergeSort (verticalOrder d) :=
      sortVertically_eq d (pairwise_sortVertically d l')
        (h.trans (sameTies_sortVertically d l').symm)
    rw [groupRows_eq, groupRows_eq, hsort]

/-- **The reading order is a fixed point.** Elements that stand in reading order have the same rows
as before, element for element, so that reading them again changes nothing. -/
theorem groupRows_readingOrder (elements : List α) :
    groupRows d threshold strategy (groupRows d threshold strategy elements).flatten =
        groupRows d threshold strategy elements ∧
      readingOrder d threshold strategy (readingOrder d threshold strategy elements) =
        readingOrder d threshold strategy elements := by
  have hrows : groupRows d threshold strategy (readingOrder d threshold strategy elements) =
      groupRows d threshold strategy elements :=
    (groupRows_eq_iff d threshold strategy).2 (sameTies_readingOrder d threshold strategy elements)
  exact ⟨hrows, congrArg List.flatten hrows⟩

end Elements

end Wireframe
