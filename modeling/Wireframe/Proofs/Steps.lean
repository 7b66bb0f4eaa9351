import Mathlib.Data.List.Forall2

/-!
# Steps that can fail

What a sequence of steps comes to: two steps succeed only if both do (`bind_eq_ok`), and one step
for each item of a list gives one result for each (`mapM_eq_ok_iff`). Of what fails, the first fault
counts (`fault?_two`).
-/
namespace Wireframe

variable {α β ε : Type}

/-- A sequence of two steps succeeds only if both do. -/
theorem bind_eq_ok {ε γ δ : Type} {x : Except ε γ} {f : γ → Except ε δ} {b : δ}
    (h : x >>= f = .ok b) : ∃ a, x = .ok a ∧ f a = .ok b := by
  cases x with
  | error e => cases h
  | ok a => exact ⟨a, rfl, h⟩

/-- A sequence of two steps fails as the first of them does that fails. -/
theorem bind_eq_error {ε γ δ : Type} {x : Except ε γ} {f : γ → Except ε δ} {e : ε}
    (h : x >>= f = .error e) : x = .error e ∨ ∃ a, x = .ok a ∧ f a = .error e := by
  cases x with
  | error e' =>
    cases h
    exact .inl rfl
  | ok a => exact .inr ⟨a, rfl, h⟩

/-! ## Faults -/

/-- The fault of a step that fails. -/
def fault? : Except ε α → Option ε
  | .ok _ => none
  | .error e => some e

theorem fault?_eq_some_iff {x : Except ε α} {e : ε} : fault? x = some e ↔ x = .error e := by
  cases x <;> simp [fault?]

theorem fault?_eq_none_iff {x : Except ε α} : fault? x = none ↔ ∃ a, x = .ok a := by
  cases x <;> simp [fault?]

theorem fault?_one {x : Except ε α} (f : α → β) : fault? (x >>= fun a => .ok (f a)) = fault? x := by
  cases x <;> rfl

/-- Of two steps the first that fails gives its fault. -/
theorem fault?_two {γ : Type} {x : Except ε α} {y : Except ε β} (f : α → β → γ) :
    fault? (x >>= fun a => y >>= fun b => .ok (f a b)) = (fault? x).or (fault? y) := by
  cases x <;> cases y <;> rfl

/-! ## Lists of steps -/

/-- Steps for the items of a list succeed with the results of each, in order. -/
theorem mapM_eq_ok_iff {f : α → Except ε β} {items : List α} {results : List β} :
    items.mapM f = .ok results ↔ List.Forall₂ (fun a b => f a = .ok b) items results := by
  induction items generalizing results with
  | nil =>
    rw [List.mapM_nil, List.forall₂_nil_left_iff]
    exact ⟨fun h => (Except.ok.inj h).symm, fun h => congrArg Except.ok h.symm⟩
  | cons a rest ih =>
    rw [List.mapM_cons]
    constructor
    · intro h
      obtain ⟨b, hb, h⟩ := bind_eq_ok h
      obtain ⟨bs, hbs, h⟩ := bind_eq_ok h
      cases h
      exact .cons hb (ih.1 hbs)
    · rintro (_ | ⟨hb, hbs⟩)
      rw [hb, ih.2 hbs]
      rfl

/-- A list of steps that all succeed has a result, item by item. -/
theorem exists_mapM_eq_ok {f : α → Except ε β} {items : List α}
    (h : ∀ a ∈ items, ∃ b, f a = .ok b) :
    ∃ results, items.mapM f = .ok results ∧
      List.Forall₂ (fun a b => f a = .ok b) items results := by
  induction items with
  | nil => exact ⟨[], rfl, .nil⟩
  | cons a rest ih =>
    obtain ⟨b, hb⟩ := h a List.mem_cons_self
    obtain ⟨results, -, hrest⟩ := ih fun a ha => h a (List.mem_cons_of_mem _ ha)
    exact ⟨b :: results, mapM_eq_ok_iff.2 (.cons hb hrest), .cons hb hrest⟩

theorem exists_of_forall₂ {R : α → β → Prop} {items : List α} {results : List β}
    (h : List.Forall₂ R items results) : ∀ b ∈ results, ∃ a ∈ items, R a b := by
  induction h with
  | nil => simp
  | cons hab hrest ih =>
    intro b hb
    rcases List.mem_cons.1 hb with rfl | hb
    · exact ⟨_, List.mem_cons_self, hab⟩
    · obtain ⟨a, ha, hab⟩ := ih b hb
      exact ⟨a, List.mem_cons_of_mem _ ha, hab⟩

end Wireframe
