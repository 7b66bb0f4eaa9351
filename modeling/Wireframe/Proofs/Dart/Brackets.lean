import Wireframe.Proofs.Dart.Sealed

/-!
# Brackets

A text is well bracketed if every bracket in it is closed by its own kind, after all that were
opened later. A reader keeps the closing brackets that are still to come; before and after such a
text these are the same (`WellBracketed.nest`), whatever stands around.

Well-formed source is sealed and has a well-bracketed skeleton.
-/
namespace Wireframe

namespace Dart

/-! ## Reading brackets -/

/-- What closes a bracket. -/
def closer? (c : Nat) : Option Nat :=
  if c = 0x28 then some 0x29
  else if c = 0x5B then some 0x5D
  else if c = 0x7B then some 0x7D
  else none

def isCloser (c : Nat) : Bool := c = 0x29 || c = 0x5D || c = 0x7D

def isBracket (c : Nat) : Bool := (closer? c).isSome || isCloser c

/-- The closing brackets to come, the next one first, after one more code point; `none` where
another bracket had to be closed. -/
def bracketStep? (expected : List Nat) (c : Nat) : Option (List Nat) :=
  match closer? c with
  | some closer => some (closer :: expected)
  | none =>
    if isCloser c then
      match expected with
      | closer :: rest => if c = closer then some rest else none
      | [] => none
    else some expected

def nest (expected : List Nat) (t : Text) : Option (List Nat) := t.foldlM bracketStep? expected

def WellBracketed (t : Text) : Prop := nest [] t = some []

instance (t : Text) : Decidable (WellBracketed t) := inferInstanceAs (Decidable (_ = _))

theorem nest_of_chars {expected : List Nat} {result : Option (List Nat)} {chars : List Char}
    (h : nest expected (chars.map Char.toNat) = result) :
    nest expected (Text.ofString (String.ofList chars)) = result :=
  Text.of_chars (P := fun t => nest expected t = result) h

theorem nest_append (expected : List Nat) (a b : Text) :
    nest expected (a ++ b) = (nest expected a).bind fun expected' => nest expected' b :=
  List.foldlM_append

theorem nest_cons_of_not_isBracket {c : Nat} (h : isBracket c = false) (expected : List Nat)
    (t : Text) : nest expected (c :: t) = nest expected t := by
  rw [isBracket, Bool.or_eq_false_iff, Option.isSome_eq_false_iff, Option.isNone_iff_eq_none] at h
  have hstep : bracketStep? expected c = some expected := by
    simp [bracketStep?, h.1, h.2]
  rw [nest, List.foldlM_cons, hstep]
  rfl

/-- Only the brackets of a text matter. -/
theorem nest_of_not_isBracket {t : Text} (h : ∀ c ∈ t, isBracket c = false)
    (expected : List Nat) : nest expected t = some expected := by
  induction t with
  | nil => rfl
  | cons c rest ih =>
    obtain ⟨hc, hrest⟩ := List.forall_mem_cons.1 h
    rw [nest_cons_of_not_isBracket hc, ih hrest]

theorem bracketStep?_append {expected expected' : List Nat} {c : Nat}
    (h : bracketStep? expected c = some expected') (outer : List Nat) :
    bracketStep? (expected ++ outer) c = some (expected' ++ outer) := by
  unfold bracketStep? at h ⊢
  cases hcloser : closer? c with
  | some closer =>
    rw [hcloser] at h
    cases h
    rfl
  | none =>
    rw [hcloser] at h
    by_cases hc : isCloser c
    · cases expected with
      | nil => simp [hc] at h
      | cons closer rest =>
        by_cases heq : c = closer
        · subst heq
          simp [hc] at h ⊢
          exact h
        · simp [hc, heq] at h
    · simp [hc] at h ⊢
      exact h

/-- Brackets that are open outside of a text do not matter inside of it. -/
theorem nest_append_outer {expected expected' : List Nat} {t : Text}
    (h : nest expected t = some expected') (outer : List Nat) :
    nest (expected ++ outer) t = some (expected' ++ outer) := by
  induction t generalizing expected with
  | nil =>
    cases h
    rfl
  | cons c rest ih =>
    rw [nest, List.foldlM_cons] at h ⊢
    obtain ⟨between, hstep, hrest⟩ := Option.bind_eq_some_iff.1 h
    rw [bracketStep?_append hstep outer]
    exact ih hrest

/-! ## WellBracketed texts -/

namespace WellBracketed

theorem nil : WellBracketed [] := rfl

theorem nest {t : Text} (h : WellBracketed t) (expected : List Nat) :
    Dart.nest expected t = some expected := nest_append_outer h expected

theorem of_not_isBracket {t : Text} (h : ∀ c ∈ t, isBracket c = false) : WellBracketed t :=
  nest_of_not_isBracket h []

theorem append {a b : Text} (ha : WellBracketed a) (hb : WellBracketed b) :
    WellBracketed (a ++ b) := by
  rw [WellBracketed, nest_append, ha]
  exact hb

/-- What stands between an opening and its closing. -/
theorem between (expected : List Nat) {opening t closing : Text}
    (hopening : Dart.nest [] opening = some expected) (h : WellBracketed t)
    (hclosing : Dart.nest expected closing = some []) :
    WellBracketed (opening ++ (t ++ closing)) := by
  rw [WellBracketed, nest_append, hopening, Option.bind_some, nest_append, h.nest, Option.bind_some,
    hclosing]

theorem join {separator : Text} (hseparator : WellBracketed separator) {ts : List Text}
    (h : ∀ t ∈ ts, WellBracketed t) : WellBracketed (Text.join separator ts) := by
  induction ts with
  | nil => exact nil
  | cons t ts ih =>
    obtain ⟨ht, hts⟩ := List.forall_mem_cons.1 h
    cases ts with
    | nil => exact ht
    | cons t' ts =>
      rw [Text.join_cons_cons]
      exact ht.append (hseparator.append (ih hts))

end WellBracketed

section Indentation

variable (expected : List Nat) (levels : Nat)

theorem nest_lead_append (line t : Text) :
    nest expected (lead levels line ++ t) = nest expected t := by
  have hlead : nest expected (lead levels line) = some expected := by
    refine nest_of_not_isBracket (fun c hc => ?_) expected
    rw [mem_lead levels hc]
    decide
  rw [nest_append, hlead, Option.bind_some]

theorem nest_indentTail (t : Text) : nest expected (indentTail levels t) = nest expected t := by
  induction t generalizing expected with
  | nil => rfl
  | cons c rest ih =>
    by_cases hends : Text.endsLine c rest
    · rw [indentTail_cons_of_endsLine levels hends, nest, nest, List.foldlM_cons, List.foldlM_cons]
      congr 1
      funext between
      exact (nest_lead_append between levels rest _).trans (ih between)
    · rw [indentTail_cons_of_not_endsLine levels hends, nest, nest, List.foldlM_cons,
        List.foldlM_cons]
      congr 1
      funext between
      exact ih between

theorem nest_indent (t : Text) : nest expected (indent levels t) = nest expected t := by
  rw [indent_eq, nest_lead_append, nest_indentTail]

theorem nest_hangingIndent (t : Text) :
    nest expected (hangingIndent levels t) = nest expected t := by
  have hlineFeed : isBracket CodePoint.lineFeed = false := by decide
  rcases Text.cut_eq CodePoint.lineFeed t with ⟨hmem, -⟩ | ⟨first, rest, hmem, rfl, -⟩
  · rw [hangingIndent_of_not_mem levels hmem]
  · by_cases hnil : rest = []
    · rw [hnil, hangingIndent_append_lineFeed levels hmem, nest_append]
      cases nest expected first with
      | none => rfl
      | some between => exact (nest_cons_of_not_isBracket hlineFeed between []).symm
    · rw [hangingIndent_append levels hmem hnil, nest_append, nest_append]
      congr 1
      funext between
      rw [nest_cons_of_not_isBracket hlineFeed, nest_cons_of_not_isBracket hlineFeed, nest_indent]

end Indentation

theorem WellBracketed.listEntries (levels : Nat) {items : List Text}
    (h : ∀ item ∈ items, WellBracketed item) : WellBracketed (listEntries levels items) := by
  refine .join (by decide) fun t ht => ?_
  obtain ⟨item, hitem, rfl⟩ := List.mem_map.1 ht
  have hindent : WellBracketed (indent levels item) :=
    (nest_indent [] levels item).trans (h item hitem)
  have hcomma : WellBracketed (Text.concat [Text.ofString ","]) := by decide
  exact hindent.append hcomma

/-! ## Well-formed source -/

structure WellFormed (t : Text) : Prop extends Sealed t where
  wellBracketed : WellBracketed (skeleton t)

namespace WellFormed

theorem nil : WellFormed [] := ⟨.nil, .nil⟩

theorem hangingIndent {t : Text} (h : WellFormed t) (levels : Nat) :
    WellFormed (hangingIndent levels t) := by
  refine ⟨sealed_hangingIndent levels h.toSealed, ?_⟩
  rw [skeleton_hangingIndent levels h.toSealed, WellBracketed, nest_hangingIndent]
  exact h.wellBracketed

end WellFormed

end Dart

end Wireframe
