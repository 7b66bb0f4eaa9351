import Wireframe.Proofs.Dart.TypeNames

/-!
# Members of classes

The members that the classes of a file declare or override, read off its source. A declaration
in the body of a class has its name before the first parenthesis, brace, equals sign or semicolon,
and ends with a semicolon or with the brace that closes its body. What stands deeper in brackets
declares nothing (`MemberReader.read_of_wellBracketed`).
-/
namespace Wireframe

namespace Dart

def openingBrace : Nat := 0x7B

def closingBrace : Nat := 0x7D

def semicolon : Nat := 0x3B

/-- Whether the name of a declaration comes before a code point. -/
def endsName (c : Nat) : Bool := c = 0x28 || c = 0x3D || c = semicolon || c = openingBrace

def lastWord (t : Text) : Text := ((t.splitOnP isBreak).filter (!·.isEmpty)).getLast?.getD []

/-- Where a reader of classes stands. -/
structure MemberReader where
  /-- The closing brackets to come. -/
  expected : List Nat
  /-- What has been read of a declaration as long as it has no name. -/
  heading : Option Text
  members : List Text
  deriving DecidableEq

namespace MemberReader

def start : MemberReader := ⟨[], none, []⟩

def step? (r : MemberReader) (c : Nat) : Option MemberReader :=
  (bracketStep? r.expected c).map fun expected =>
    if r.expected = [closingBrace] then
      let next := if c = semicolon then some [] else none
      match r.heading with
      | some heading =>
        if endsName c then ⟨expected, next, r.members ++ [lastWord heading]⟩
        else ⟨expected, some (heading ++ [c]), r.members⟩
      | none => ⟨expected, next, r.members⟩
    else if expected = [closingBrace] && (c = openingBrace || c = closingBrace) then
      ⟨expected, some [], r.members⟩
    else ⟨expected, r.heading, r.members⟩

def read (r : MemberReader) (t : Text) : Option MemberReader := t.foldlM step? r

theorem read_append (r : MemberReader) (a b : Text) :
    r.read (a ++ b) = (r.read a).bind fun r' => r'.read b := List.foldlM_append

theorem step?_of_inside {expected expected' outer : List Nat} {c : Nat} (houter : 2 ≤ outer.length)
    (h : bracketStep? expected c = some expected') (heading : Option Text) (members : List Text) :
    step? ⟨expected ++ outer, heading, members⟩ c =
      some ⟨expected' ++ outer, heading, members⟩ := by
  have hdeep (inner : List Nat) : inner ++ outer ≠ [closingBrace] := fun heq => by
    have hlength := congrArg List.length heq
    rw [List.length_append, List.length_singleton] at hlength
    omega
  simp [step?, bracketStep?_append h outer, hdeep]

/-- What stands in brackets inside of the body of a class declares nothing. -/
theorem read_of_nest {expected expected' outer : List Nat} {t : Text} (houter : 2 ≤ outer.length)
    (h : nest expected t = some expected') (heading : Option Text) (members : List Text) :
    read ⟨expected ++ outer, heading, members⟩ t = some ⟨expected' ++ outer, heading, members⟩ := by
  induction t generalizing expected with
  | nil =>
    cases h
    rfl
  | cons c rest ih =>
    rw [nest, List.foldlM_cons] at h
    obtain ⟨between, hstep, hrest⟩ := Option.bind_eq_some_iff.1 h
    rw [read, List.foldlM_cons, step?_of_inside houter hstep]
    exact ih hrest

theorem read_of_wellBracketed {r : MemberReader} {t : Text} (hdeep : 2 ≤ r.expected.length)
    (h : WellBracketed t) : r.read t = some r := read_of_nest hdeep h r.heading r.members

end MemberReader

/-- The members that the classes of a file declare or override; none where brackets do not match. -/
def members (source : Text) : List Text :=
  ((MemberReader.start.read (skeleton source)).map (·.members)).getD []

example : members "class A {int w = f(2); A(); B b({k}) {return C();}}" = ["w", "A", "b"] := by
  decide

end Dart

end Wireframe
