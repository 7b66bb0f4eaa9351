import Wireframe.Page.Scaffold
import Wireframe.Proofs.Dart.Blocks

/-!
# Source of pages

A page has its name in six places of the source and in its title, and its body in one place
(`Page.holes_scaffold`). It is well-formed if its body is, whatever its name. It has two literals of
its own, the library that it imports and its title, and the literals of its body.
-/
namespace Wireframe

open Dart

namespace PageName

theorem mem_cleaned {given : Text} {c : Nat} (h : c ∈ cleaned given) :
    CodePoint.isAlphanumeric c = true := (List.mem_filter.1 h).2

theorem mem_standard : ∀ c ∈ standard, CodePoint.isAlphanumeric c = true :=
  Text.of_chars (P := fun t => ∀ c ∈ t, CodePoint.isAlphanumeric c = true) (by decide)

/-- A class name is made of letters and digits if the one to fall back on is. -/
theorem mem_ofText {given fallback : Text}
    (hfallback : ∀ c ∈ fallback, CodePoint.isAlphanumeric c = true) :
    ∀ c ∈ ofText given fallback, CodePoint.isAlphanumeric c = true := by
  intro c hc
  unfold ofText at hc
  split at hc
  · exact mem_cleaned hc
  · exact hfallback c hc

end PageName

namespace Dart

def Piece.isCode : Piece → Bool
  | code _ => true
  | _ => false

/-- What is filled into a block, each piece with the number of its line, from zero on. -/
def Block.holes (block : Block) : List (Nat × Piece) :=
  block.zipIdx.flatMap fun (line, i) => (line.filter fun p => !p.isCode).map (i, ·)

end Dart

namespace Page

/-- What is filled into a page, whatever that is: the name of its class and of the state of it, the
title as a literal, and the body. -/
theorem holes_scaffold (name body : Text) : Block.holes (scaffold name body) =
    [(2, .name name), (3, .name name), (6, .name name), (6, .name name), (9, .name name),
      (9, .name name), (14, .literal name), (20, .source body)] := rfl

def library : Text := "package:flutter/material.dart"

theorem escape_library : DartLiteral.escape library = library :=
  Text.of_chars (P := fun t => DartLiteral.escape t = t) (by decide)

/-- The import of the library, its literal apart from the source around it. -/
def importLine : Line := ["import ", .literal library, ";"]

/-- The scaffold with the import divided into pieces. -/
def pieces (name body : Text) : Block := importLine :: (scaffold name body).tail

theorem source_scaffold (name body : Text) :
    (scaffold name body).source = (pieces name body).source := by
  have himport : Line.text [.code "import 'package:flutter/material.dart';"] =
      Line.text importLine := by
    decide
  have hscaffold : scaffold name body =
      [.code "import 'package:flutter/material.dart';"] :: (scaffold name body).tail := rfl
  rw [hscaffold, Block.source, Block.source, List.map_cons, himport]
  rfl

theorem isFrame_pieces (name body : Text) :
    Block.isFrame (Block.fixed (pieces name body)) = true :=
  Block.isFrame_of_spelled (by repeat' constructor) (by decide +kernel)

section Filled

variable {name body : Text} (hname : ∀ c ∈ name, CodePoint.isAlphanumeric c = true)
  (hbody : WellFormed body)

include hname hbody

theorem filled_pieces : ∀ line ∈ pieces name body, ∀ p ∈ line, p.Filled := by
  simp only [pieces, importLine, scaffold, List.tail_cons, List.forall_mem_cons, Piece.Filled]
  simpa [hbody] using hname

theorem wellFormed_scaffold : WellFormed (scaffold name body).source := by
  rw [source_scaffold]
  exact Block.wellFormed_source (filled_pieces hname hbody) (isFrame_pieces name body)

/-- What encloses a body sees its skeleton only. -/
theorem skeleton_scaffold {body' : Text} (hbody' : WellFormed body')
    (h : skeleton body = skeleton body') :
    skeleton (scaffold name body).source = skeleton (scaffold name body').source := by
  have houtline : Block.outline (pieces name body) = Block.outline (pieces name body') := by
    simp [Block.outline, pieces, scaffold, Piece.outline, h]
  rw [source_scaffold, source_scaffold,
    Block.skeleton_source (filled_pieces hname hbody) (isFrame_pieces name body),
    Block.skeleton_source (filled_pieces hname hbody') (isFrame_pieces name body'), houtline]

theorem literals_scaffold :
    literals (scaffold name body).source = library :: name :: literals body := by
  rw [source_scaffold,
    Block.literals_source (filled_pieces hname hbody) (isFrame_pieces name body)]
  simp [Block.contents, pieces, importLine, scaffold, Piece.contents, escape_library,
    escape_of_isAlphanumeric hname]

end Filled

/-! ## Enclosed bodies -/

def content (body : Text) : Text := if body.isEmpty then emptyBody else body

theorem isPlain_emptyBody : isPlain emptyBody = true := isPlain_of_chars (by decide)

theorem wellBracketed_emptyBody : WellBracketed emptyBody := nest_of_chars (by decide)

theorem wellFormed_content {body : Text} (h : WellFormed body) : WellFormed (content body) := by
  unfold content
  split
  · refine ⟨sealed_of_isPlain isPlain_emptyBody, ?_⟩
    rw [skeleton_of_isPlain isPlain_emptyBody]
    exact wellBracketed_emptyBody
  · exact h

theorem skeleton_content (body : Text) : skeleton (content body) = content (skeleton body) := by
  by_cases hbody : body = []
  · rw [hbody]
    exact skeleton_of_isPlain isPlain_emptyBody
  · have hskeleton : skeleton body ≠ [] := mt skeleton_eq_nil_iff.1 hbody
    rw [content, content, List.isEmpty_eq_false_iff.2 hbody, List.isEmpty_eq_false_iff.2 hskeleton,
      if_neg Bool.false_ne_true, if_neg Bool.false_ne_true]

section Enclosed

variable (given : Text) {body fallback : Text}
  (hfallback : ∀ c ∈ fallback, CodePoint.isAlphanumeric c = true) (hbody : WellFormed body)

include hfallback hbody

theorem wellFormed_enclose : WellFormed (enclose given body fallback) :=
  wellFormed_scaffold (PageName.mem_ofText hfallback)
    ((wellFormed_content hbody).hangingIndent bodyLevels)

theorem skeleton_enclose {body' : Text} (hbody' : WellFormed body')
    (h : skeleton body = skeleton body') :
    skeleton (enclose given body fallback) = skeleton (enclose given body' fallback) := by
  refine skeleton_scaffold (PageName.mem_ofText hfallback)
    ((wellFormed_content hbody).hangingIndent bodyLevels)
    ((wellFormed_content hbody').hangingIndent bodyLevels) ?_
  have hcontent := skeleton_hangingIndent bodyLevels (wellFormed_content hbody).toSealed
  have hcontent' := skeleton_hangingIndent bodyLevels (wellFormed_content hbody').toSealed
  rw [skeleton_content] at hcontent hcontent'
  rw [← h] at hcontent'
  exact hcontent.trans hcontent'.symm

theorem literals_enclose :
    literals (enclose given body fallback) =
      library :: PageName.ofText given fallback ::
        literals (hangingIndent bodyLevels (content body)) :=
  literals_scaffold (PageName.mem_ofText hfallback)
    ((wellFormed_content hbody).hangingIndent bodyLevels)

end Enclosed

end Page

end Wireframe
