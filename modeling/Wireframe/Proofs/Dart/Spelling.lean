import Mathlib.Data.List.Forall2
import Wireframe.Dart.Words

/-!
# Names letter by letter

The lists of names that a class cannot have, in letters, so that it can be evaluated whether a name
is among them.
-/
namespace Wireframe

namespace Dart

/-- The letters of names. Evaluation of letters is fast, that of strings is not. -/
structure Spelling (names : List Text) where
  letters : List (List Char)
  eq : names = letters.map fun name => name.map Char.toNat

namespace Spelling

def texts {names : List Text} (s : Spelling names) : List Text :=
  s.letters.map fun name => name.map Char.toNat

theorem texts_eq {names : List Text} (s : Spelling names) : s.texts = names := s.eq.symm

def ofStrings {names : List String} {letters : List (List Char)}
    (h : List.Forall₂ (fun name chars => name = String.ofList chars) names letters) :
    Spelling (names.map Text.ofString) where
  letters := letters
  eq := by
    induction h with
    | nil => rfl
    | cons hname _ ih =>
      rw [List.map_cons, List.map_cons, ih, hname, Text.ofString, String.toList_ofList]

def append {names more : List Text} (s : Spelling names) (s' : Spelling more) :
    Spelling (names ++ more) where
  letters := s.letters ++ s'.letters
  eq := by rw [List.map_append, ← s.eq, ← s'.eq]

end Spelling

def reservedSpelling : Spelling reservedWords := .ofStrings (by repeat' constructor)

def librarySpelling : Spelling flutterNames := .ofStrings (by repeat' constructor)

def annotationSpelling : Spelling (List.map Text.ofString ["override"]) :=
  .ofStrings (by repeat' constructor)

def takenSpelling : Spelling takenNames :=
  (reservedSpelling.append librarySpelling).append annotationSpelling

end Dart

end Wireframe
