import Wireframe.Fault

/-!
# Checked values

The outcome of reading a value: the value, or all that is wrong with it. Combining two outcomes
keeps the problems of both, in order.

Main statement: `seq_eq_accepted_iff`, a combination is accepted only if both parts are.
-/
namespace Wireframe

inductive Checked (α : Type) where
  | accepted (value : α)
  | refused (errors : List FieldError)

namespace Checked

variable {α β : Type}

def map (f : α → β) : Checked α → Checked β
  | accepted a => accepted (f a)
  | refused errors => refused errors

/-- Applies a checked function to a checked value. -/
def seq : Checked (α → β) → Checked α → Checked β
  | accepted f, c => c.map f
  | refused errors, accepted _ => refused errors
  | refused errors, refused more => refused (errors ++ more)

instance : Applicative Checked where
  pure := accepted
  seq f c := seq f (c ())

/-- One problem with the value itself. -/
def problem (p : Problem) : Checked α := refused [⟨[], p⟩]

/-- Places the problems below a step. -/
def under (step : Step) : Checked α → Checked α
  | accepted a => accepted a
  | refused errors => refused (errors.map fun e => { e with location := step :: e.location })

/-- A further condition on an accepted value. -/
def ensure (c : Checked α) (p : α → Option Problem) : Checked α :=
  match c with
  | accepted a => match p a with
    | none => accepted a
    | some reason => problem reason
  | refused errors => refused errors

/-- Reads all items of a list, each below its index; `i` is the index of the first. -/
def all (f : β → Checked α) (i : Nat) : List β → Checked (List α)
  | [] => accepted []
  | b :: rest => seq (map List.cons (under (.index i) (f b))) (all f (i + 1) rest)

theorem seq_eq_accepted_iff {f : Checked (α → β)} {c : Checked α} {b : β} :
    seq f c = accepted b ↔ ∃ g a, f = accepted g ∧ c = accepted a ∧ g a = b := by
  cases f <;> cases c <;> simp [seq, map]

end Checked

end Wireframe
