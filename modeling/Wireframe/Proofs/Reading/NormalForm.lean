import Wireframe.Proofs.Reading.Rows

/-!
# Normal forms of detections

Rows are made from the keys of elements alone (`groupRows_congr`). In normal form a detection is
given by its key (`normal_eq_iff`), so sorting leaves no choice between detections in normal form
and the rows of a permutation differ at most in what normal forms forget (`map_groupRows_of_perm`).
-/
namespace Wireframe

/-! ## Numbers -/

namespace Binary64

/-- The number as it is compared: zero if it is not finite, and without the sign of a zero. -/
def normal (x : Binary64) : Binary64 := if x.orZero.units = 0 then zero else x

theorem units_zero : zero.units = 0 := rfl

theorem orZero_zero : zero.orZero = zero := rfl

theorem orZero_eq_self_of_units_ne {x : Binary64} (h : x.orZero.units ≠ 0) : x.orZero = x := by
  cases x with
  | nan => exact absurd rfl h
  | infinite negative => exact absurd rfl h
  | finite negative magnitude => rfl

theorem units_orZero_normal (x : Binary64) : x.normal.orZero.units = x.orZero.units := by
  unfold normal
  split
  · rename_i h
    rw [h, orZero_zero, units_zero]
  · rfl

/-- A finite number other than zero is known from its units. -/
theorem eq_of_units_eq {x y : Binary64} (hx : x.orZero.units ≠ 0)
    (h : x.orZero.units = y.orZero.units) : x = y := by
  have hy : y.orZero.units ≠ 0 := h ▸ hx
  rw [orZero_eq_self_of_units_ne hx, orZero_eq_self_of_units_ne hy] at h
  match x, y with
  | nan, _ => exact absurd rfl hx
  | infinite _, _ => exact absurd rfl hx
  | _, nan => exact absurd rfl hy
  | _, infinite _ => exact absurd rfl hy
  | finite a ⟨m, hm⟩, finite b ⟨n, hn⟩ =>
    have ha : m ≠ 0 := by rintro rfl; cases a <;> exact hx rfl
    cases a <;> cases b <;> simp [units] at h <;> simp <;> omega

theorem normal_eq_iff {x y : Binary64} : x.normal = y.normal ↔ x.orZero.units = y.orZero.units := by
  constructor
  · intro h
    rw [← units_orZero_normal x, h, units_orZero_normal]
  · intro h
    unfold normal
    rw [h]
    split
    · rfl
    · rename_i hne
      exact eq_of_units_eq (h ▸ hne) h

theorem exists_orZero_eq_finite (x : Binary64) : ∃ a m, x.orZero = finite a m := by
  cases x with
  | nan => exact ⟨false, .zero, rfl⟩
  | infinite negative => exact ⟨false, .zero, rfl⟩
  | finite negative magnitude => exact ⟨negative, magnitude, rfl⟩

theorem abs_ofQuotient (negative : Bool) (num den : Nat) :
    (ofQuotient negative num den).abs = ofQuotient false num den := by
  unfold ofQuotient
  cases Magnitude.ofQuotient num den <;> rfl

theorem sub_eq_add_neg (x y : Binary64) : x - y = x.add y.neg := rfl

theorem units_finite_not (negative : Bool) (m : Magnitude) :
    (finite (!negative) m).units = -(finite negative m).units := by
  cases negative <;> simp [units]

/-- The distance of two heights is rounded from the difference of their units. -/
theorem abs_sub_orZero (x y : Binary64) :
    (x.orZero - y.orZero).abs = ofQuotient false (x.orZero.units - y.orZero.units).natAbs 1 := by
  obtain ⟨a, m, hx⟩ := exists_orZero_eq_finite x
  obtain ⟨b, n, hy⟩ := exists_orZero_eq_finite y
  rw [hx, hy, sub_eq_add_neg, neg, add, ofUnits, abs_ofQuotient, units_finite_not,
    Int.sub_eq_add_neg]

end Binary64

theorem sharesRow_congr {y y' reference reference' : Binary64} (threshold : Binary64)
    (hy : y.orZero.units = y'.orZero.units)
    (hreference : reference.orZero.units = reference'.orZero.units) :
    sharesRow y reference threshold = sharesRow y' reference' threshold := by
  rw [sharesRow, sharesRow, Binary64.abs_sub_orZero, Binary64.abs_sub_orZero, hy, hreference]

/-! ## Rows see keys only -/

section Views

variable {α β : Type} (threshold : Binary64) (strategy : RowStrategy)

theorem splitRow_congr {d e : α → Detection} (h : ∀ a, (d a).key = (e a).key) (l : List α)
    {reference reference' : Binary64}
    (hreference : reference.orZero.units = reference'.orZero.units) :
    splitRow d threshold strategy reference l = splitRow e threshold strategy reference' l := by
  induction l generalizing reference reference' with
  | nil => rfl
  | cons a rest ih =>
    have hy : (d a).box.y.orZero.units = (e a).box.y.orZero.units := congrArg Detection.Key.y (h a)
    have hshares := sharesRow_congr threshold hy hreference
    by_cases hs : sharesRow (d a).box.y reference threshold
    · have hnext : (strategy.nextReference (d a).box.y reference).orZero.units =
          (strategy.nextReference (e a).box.y reference').orZero.units := by
        cases strategy
        · exact hy
        · exact hreference
      rw [splitRow_cons_of_shares d threshold strategy rest hs,
        splitRow_cons_of_shares e threshold strategy rest (hshares ▸ hs), ih hnext]
    · rw [splitRow_cons_of_not_shares d threshold strategy rest hs,
        splitRow_cons_of_not_shares e threshold strategy rest (hshares ▸ hs), divideRows_cons,
        divideRows_cons, ih hy]

theorem divideRows_congr {d e : α → Detection} (h : ∀ a, (d a).key = (e a).key) (l : List α) :
    divideRows d threshold strategy l = divideRows e threshold strategy l := by
  cases l with
  | nil => rfl
  | cons a rest =>
    have hy : (d a).box.y.orZero.units = (e a).box.y.orZero.units := congrArg Detection.Key.y (h a)
    rw [divideRows_cons, divideRows_cons, splitRow_congr threshold strategy h rest hy]

/-- A comparison that calls detections of one key equal sees only the key. -/
theorem compare_congr {cmp : Detection → Detection → Ordering} [Std.TransCmp cmp]
    (heq : ∀ {a b : Detection}, cmp a b = .eq ↔ a.key = b.key) {a a' b b' : Detection}
    (ha : a.key = a'.key) (hb : b.key = b'.key) : cmp a b = cmp a' b' := by
  rw [Std.TransCmp.congr_left (heq.2 ha), Std.TransCmp.congr_right (heq.2 hb)]

theorem groupRows_congr {d e : α → Detection} (h : ∀ a, (d a).key = (e a).key)
    (elements : List α) :
    groupRows d threshold strategy elements = groupRows e threshold strategy elements := by
  have hv : verticalOrder d = verticalOrder e := by
    funext a b
    rw [verticalOrder, verticalOrder,
      compare_congr Detection.compareVertical_eq_eq (h a) (h b)]
  have hh : horizontalOrder d = horizontalOrder e := by
    funext a b
    rw [horizontalOrder, horizontalOrder,
      compare_congr Detection.compareHorizontal_eq_eq (h a) (h b)]
  rw [groupRows_eq, groupRows_eq, hv, hh, divideRows_congr threshold strategy h]

theorem splitRow_map (f : α → β) (d : β → Detection) (reference : Binary64) (l : List α) :
    splitRow d threshold strategy reference (l.map f) =
      ((splitRow (fun a => d (f a)) threshold strategy reference l).1.map f,
        (splitRow (fun a => d (f a)) threshold strategy reference l).2.map (List.map f)) := by
  induction l generalizing reference with
  | nil => rfl
  | cons a rest ih =>
    by_cases hs : sharesRow (d (f a)).box.y reference threshold
    · rw [List.map_cons, splitRow_cons_of_shares d threshold strategy _ hs,
        splitRow_cons_of_shares (fun a => d (f a)) threshold strategy rest hs, ih]
      rfl
    · rw [List.map_cons, splitRow_cons_of_not_shares d threshold strategy _ hs,
        splitRow_cons_of_not_shares (fun a => d (f a)) threshold strategy rest hs,
        divideRows_cons, divideRows_cons, ih]
      rfl

theorem divideRows_map (f : α → β) (d : β → Detection) (l : List α) :
    divideRows d threshold strategy (l.map f) =
      (divideRows (fun a => d (f a)) threshold strategy l).map (List.map f) := by
  cases l with
  | nil => rfl
  | cons a rest =>
    rw [List.map_cons, divideRows_cons, divideRows_cons, splitRow_map]
    rfl

/-- Whether elements are mapped before or after they are put into rows is the same. -/
theorem groupRows_map (f : α → β) (d : β → Detection) (elements : List α) :
    groupRows d threshold strategy (elements.map f) =
      (groupRows (fun a => d (f a)) threshold strategy elements).map (List.map f) := by
  have hv : (elements.mergeSort (verticalOrder fun a => d (f a))).map f =
      (elements.map f).mergeSort (verticalOrder d) := List.map_mergeSort fun _ _ _ _ => rfl
  rw [groupRows_eq, groupRows_eq, ← hv, divideRows_map, List.map_map, List.map_map]
  refine List.map_congr_left ?_
  intro row _
  have hh : (row.mergeSort (horizontalOrder fun a => d (f a))).map f =
      (row.map f).mergeSort (horizontalOrder d) := List.map_mergeSort fun _ _ _ _ => rfl
  exact hh.symm

end Views

/-! ## Detections -/

namespace Detection

/-- The detection with all forgotten that its key does not tell. -/
def normal (d : Detection) : Detection where
  kind := d.kind
  box := ⟨d.box.x.normal, d.box.y.normal, d.box.width.normal, d.box.height.normal⟩
  confidence := d.confidence.normal
  label := some (d.label.getD [])

theorem key_normal (d : Detection) : d.normal.key = d.key := by
  simp [key, normal, Binary64.units_orZero_normal]

theorem normal_eq_iff {a b : Detection} : a.normal = b.normal ↔ a.key = b.key := by
  constructor
  · intro h
    rw [← key_normal a, h, key_normal]
  · intro h
    simp only [key, Key.mk.injEq] at h
    obtain ⟨hx, hy, hheight, hwidth, hkind, hlabel, hconfidence⟩ := h
    rw [normal, normal, Binary64.normal_eq_iff.2 hx, Binary64.normal_eq_iff.2 hy,
      Binary64.normal_eq_iff.2 hheight, Binary64.normal_eq_iff.2 hwidth, hkind, hlabel,
      Binary64.normal_eq_iff.2 hconfidence]

/-- The caption of a detection without a label is that of one with an empty label. -/
theorem caption_normal (d : Detection) : d.normal.caption = d.caption := by
  cases h : d.label with
  | none => simp [caption, normal, h, Text.strip, Text.trimBy]
  | some t => simp [caption, normal, h]

end Detection

section Permutations

variable (threshold : Binary64) (strategy : RowStrategy)

theorem groupRows_map_normal (l : List Detection) :
    groupRows id threshold strategy (l.map Detection.normal) =
      (groupRows id threshold strategy l).map (List.map Detection.normal) := by
  rw [groupRows_map]
  exact congrArg _ (groupRows_congr threshold strategy Detection.key_normal l)

/-- The rows of detections in normal form do not depend on their order. -/
theorem map_groupRows_of_perm {first second : List Detection} (h : first.Perm second) :
    (groupRows id threshold strategy first).map (List.map Detection.normal) =
      (groupRows id threshold strategy second).map (List.map Detection.normal) := by
  have hsort : (first.map Detection.normal).mergeSort (verticalOrder id) =
      (second.map Detection.normal).mergeSort (verticalOrder id) := by
    refine mergeSort_eq_of_perm (verticalOrder_trans id) (verticalOrder_total id) ?_ (h.map _)
    intro a ha b hb hab hba
    obtain ⟨a, -, rfl⟩ := List.mem_map.1 ha
    obtain ⟨b, -, rfl⟩ := List.mem_map.1 hb
    have hkey := key_eq_of_verticalOrder id hab hba
    rw [id_eq, id_eq, Detection.key_normal, Detection.key_normal] at hkey
    exact Detection.normal_eq_iff.2 hkey
  rw [← groupRows_map_normal, ← groupRows_map_normal, groupRows_eq, groupRows_eq, hsort]

end Permutations

end Wireframe
