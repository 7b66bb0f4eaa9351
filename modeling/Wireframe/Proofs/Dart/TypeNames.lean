import Mathlib.Data.List.Chain
import Wireframe.Dart.Words
import Wireframe.Proofs.Dart.Blocks

/-!
# Type names in source

A type name is a word of source that starts with a capital, or one of the few types of the
language that are written small. A private name starts with an underscore and is none.

All here follows from one equation, `typeNames_append_cons`: what stands on two sides of a code
point that belongs to no word can be read apart. So indentation adds no type names, and a block
has those of its fixed pieces (`Block.typeNames_outline`).
-/
namespace Wireframe

namespace Dart

/-! ## Words -/

/-- Whether a code point belongs to no word. -/
def isBreak (c : Nat) : Bool := !(CodePoint.isAlphanumeric c || c == 0x5F || c == 0x24)

/-- The types of the language that are written small. -/
def plainTypes : List Text := List.map Text.ofString
  ["bool", "double", "dynamic", "int", "num", "void"]

def isTypeName (word : Text) : Bool :=
  word.head?.any CodePoint.isUpper || plainTypes.contains word

/-- The type names in a text without literals. -/
def typeNames (t : Text) : List Text := (t.splitOnP isBreak).filter isTypeName

theorem exists_isLetter_of_isTypeName {word : Text} (h : isTypeName word = true) :
    ∃ c ∈ word, CodePoint.isLetter c = true := by
  have hplain : ∀ word ∈ plainTypes, ∃ c ∈ word, CodePoint.isLetter c = true := by decide
  rw [isTypeName, Bool.or_eq_true, Option.any_eq_true, List.contains_iff_mem] at h
  rcases h with ⟨c, hc, hupper⟩ | hmem
  · exact ⟨c, List.mem_of_mem_head? hc, by rw [CodePoint.isLetter, hupper, Bool.true_or]⟩
  · exact hplain word hmem

theorem typeNames_nil : typeNames [] = [] := by decide

/-- A code point that belongs to no word divides a text. -/
theorem typeNames_append_cons {c : Nat} (hc : isBreak c = true) (a b : Text) :
    typeNames (a ++ c :: b) = typeNames a ++ typeNames b := by
  rw [typeNames, List.splitOnP_append_cons a b hc, List.filter_append]
  rfl

theorem typeNames_cons {c : Nat} (hc : isBreak c = true) (t : Text) :
    typeNames (c :: t) = typeNames t := typeNames_append_cons hc [] t

example : typeNames "Size(int w, _H)" = ["Size", "int"] := by decide

/-! ## Numbers -/

theorem isLetter_eq_false_of_isDigit {c : Nat} (h : CodePoint.isDigit c = true) :
    CodePoint.isLetter c = false := by
  simp [CodePoint.isDigit] at h
  simp [CodePoint.isLetter, CodePoint.isUpper, CodePoint.isLower]
  omega

theorem typeNames_ofNat (n : Nat) : typeNames (Text.ofNat n) = [] := by
  have hword : ∀ c ∈ Text.ofNat n, isBreak c = false := fun c hc => by
    rw [isBreak, CodePoint.isAlphanumeric, isDigit_of_mem_ofNat hc]
    simp
  rw [typeNames, List.splitOnP_eq_singleton hword]
  refine List.filter_eq_nil_iff.2 fun word hmem htype => ?_
  rw [List.mem_singleton.1 hmem] at htype
  obtain ⟨c, hc, hletter⟩ := exists_isLetter_of_isTypeName htype
  rw [isLetter_eq_false_of_isDigit (isDigit_of_mem_ofNat hc)] at hletter
  cases hletter

theorem typeNames_ofInt (n : Int) : typeNames (Text.ofInt n) = [] := by
  unfold Text.ofInt
  split
  · rw [typeNames_cons (by decide), typeNames_ofNat]
  · exact typeNames_ofNat _

/-! ## Texts that can be read apart -/

/-- Whether the last word of a text ends before the text does. -/
def endsApart (t : Text) : Bool := t.getLast?.any isBreak

/-- Whether the first word of a text starts after the text does. -/
def startsApart (t : Text) : Bool := t.head?.any isBreak

theorem typeNames_append_of_endsApart {a : Text} (h : endsApart a = true) (b : Text) :
    typeNames (a ++ b) = typeNames a ++ typeNames b := by
  obtain ⟨c, hlast, hc⟩ := (Option.any_eq_true _ _).1 h
  obtain ⟨init, rfl⟩ := List.getLast?_eq_some_iff.1 hlast
  rw [List.append_assoc, List.singleton_append, typeNames_append_cons hc,
    typeNames_append_cons hc, typeNames_nil, List.append_nil]

theorem typeNames_append_of_startsApart (a : Text) {b : Text} (h : startsApart b = true) :
    typeNames (a ++ b) = typeNames a ++ typeNames b := by
  obtain ⟨c, hhead, hc⟩ := (Option.any_eq_true _ _).1 h
  obtain ⟨rest, rfl⟩ := List.head?_eq_some_iff.1 hhead
  rw [typeNames_append_cons hc, typeNames_cons hc]

theorem typeNames_join_lineFeed (ts : List Text) :
    typeNames (Text.join "\n" ts) = ts.flatMap typeNames := by
  have hlineFeed : Text.ofString "\n" = [CodePoint.lineFeed] := by decide
  induction ts with
  | nil => exact typeNames_nil
  | cons t ts ih =>
    cases ts with
    | nil => exact (List.append_nil _).symm
    | cons t' ts =>
      rw [Text.join_cons_cons, hlineFeed, List.singleton_append,
        typeNames_append_cons (by decide), ← hlineFeed, ih]
      rfl

/-! ## Indented texts -/

section Indentation

variable (levels : Nat)

theorem typeNames_lead_append (line t : Text) :
    typeNames (lead levels line ++ t) = typeNames t := by
  refine lead_induction levels (P := fun spaces => typeNames (spaces ++ t) = typeNames t)
    rfl (fun spaces ih => ?_) line
  rw [List.cons_append, typeNames_cons (by decide), ih]

/-- Spaces come after line ends, so that they divide no word. -/
theorem typeNames_append_indentTail (before t : Text) :
    typeNames (before ++ indentTail levels t) = typeNames (before ++ t) := by
  induction t generalizing before with
  | nil => rfl
  | cons c rest ih =>
    by_cases hends : Text.endsLine c rest
    · have hc : isBreak c = true := by
        have hline := Text.isLineEnd_of_endsLine hends
        simp [CodePoint.isLineEnd, CodePoint.within] at hline
        simp [isBreak, CodePoint.isAlphanumeric, CodePoint.isLetter, CodePoint.isUpper,
          CodePoint.isLower, CodePoint.isDigit]
        omega
      have hrest := ih []
      rw [List.nil_append, List.nil_append] at hrest
      rw [indentTail_cons_of_endsLine levels hends, typeNames_append_cons hc,
        typeNames_append_cons hc, typeNames_lead_append, hrest]
    · have hrest := ih (before ++ [c])
      rw [List.append_assoc, List.append_assoc, List.singleton_append,
        List.singleton_append] at hrest
      rw [indentTail_cons_of_not_endsLine levels hends, hrest]

theorem typeNames_indent (t : Text) : typeNames (indent levels t) = typeNames t := by
  rw [indent_eq, typeNames_lead_append]
  exact typeNames_append_indentTail levels [] t

theorem typeNames_hangingIndent (t : Text) :
    typeNames (hangingIndent levels t) = typeNames t := by
  have hlineFeed : isBreak CodePoint.lineFeed = true := by decide
  rcases Text.cut_eq CodePoint.lineFeed t with ⟨hmem, -⟩ | ⟨first, rest, hmem, rfl, -⟩
  · rw [hangingIndent_of_not_mem levels hmem]
  · by_cases hnil : rest = []
    · rw [hnil, hangingIndent_append_lineFeed levels hmem, typeNames_append_cons hlineFeed,
        typeNames_nil, List.append_nil]
    · rw [hangingIndent_append levels hmem hnil, typeNames_append_cons hlineFeed,
        typeNames_append_cons hlineFeed, typeNames_indent]

theorem typeNames_listEntries (items : List Text) :
    typeNames (listEntries levels items) = items.flatMap typeNames := by
  have hcomma : Text.concat [Text.ofString ","] = [0x2C] := by decide
  rw [listEntries, typeNames_join_lineFeed, List.flatMap_map]
  refine List.flatMap_congr fun item _ => ?_
  rw [Text.concat_cons, hcomma, typeNames_append_cons (by decide), typeNames_indent,
    typeNames_nil, List.append_nil]

end Indentation

/-! ## Blocks -/

/-- Whether words end where fixed source and what is filled in meet. -/
def isApart (line : List Text) : Bool :=
  decide (line.IsChain fun a b => (endsApart a || startsApart b) = true)

namespace Piece

theorem typeNames_outline {p : Piece} (h : p.isFree = true) :
    typeNames p.outline = typeNames p.fixed := by
  cases p with
  | code s => rfl
  | literal t => exact (by decide : typeNames [DartLiteral.quote, DartLiteral.quote] = [])
  | number n => exact (typeNames_ofInt n).trans typeNames_nil.symm
  | name t => cases h
  | source t => cases h

/-- Only fixed source is known to start or to end apart. -/
theorem outline_of_fixed_ne_nil {p : Piece} (h : p.fixed ≠ []) : p.outline = p.fixed := by
  cases p with
  | code s => rfl
  | _ => exact absurd rfl h

theorem endsApart_outline {p : Piece} (h : endsApart p.fixed = true) :
    endsApart p.outline = true := by
  rwa [outline_of_fixed_ne_nil]
  intro hnil
  rw [hnil] at h
  cases h

theorem startsApart_outline {p : Piece} (h : startsApart p.fixed = true) (rest : Text) :
    startsApart (p.outline ++ rest) = true := by
  obtain ⟨c, hhead, hc⟩ := (Option.any_eq_true _ _).1 h
  obtain ⟨after, hfixed⟩ := List.head?_eq_some_iff.1 hhead
  rw [outline_of_fixed_ne_nil (by rw [hfixed]; exact List.cons_ne_nil c after), hfixed]
  exact hc

end Piece

theorem typeNames_line {line : Line} (hfree : ∀ p ∈ line, p.isFree = true)
    (hapart : isApart (line.map Piece.fixed) = true) :
    typeNames (line.flatMap Piece.outline) = line.flatMap fun p => typeNames p.fixed := by
  rw [isApart, decide_eq_true_eq] at hapart
  induction line with
  | nil => exact typeNames_nil
  | cons p line ih =>
    obtain ⟨hp, hline⟩ := List.forall_mem_cons.1 hfree
    cases line with
    | nil => simp [Piece.typeNames_outline hp]
    | cons q line =>
      obtain ⟨hmeet, hrest⟩ := List.isChain_cons_cons.1 hapart
      have happend : typeNames (p.outline ++ (q :: line).flatMap Piece.outline) =
          typeNames p.outline ++ typeNames ((q :: line).flatMap Piece.outline) := by
        rcases Bool.or_eq_true_iff.1 hmeet with hends | hstarts
        · exact typeNames_append_of_endsApart (Piece.endsApart_outline hends) _
        · exact typeNames_append_of_startsApart _ (Piece.startsApart_outline hstarts _)
      rw [List.flatMap_cons, happend, Piece.typeNames_outline hp, ih hline hrest]
      rfl

namespace Block

/-- A text or a number that is filled in makes no type name, alone or with what stands around. -/
theorem typeNames_outline {block : Block} (hfree : ∀ line ∈ block, ∀ p ∈ line, p.isFree = true)
    (hapart : block.fixed.all isApart = true) :
    typeNames block.outline = block.fixed.flatMap fun line => line.flatMap typeNames := by
  rw [fixed, List.all_map, List.all_eq_true] at hapart
  rw [outline, typeNames_join_lineFeed, fixed, List.flatMap_map, List.flatMap_map]
  refine List.flatMap_congr fun line hline => ?_
  rw [typeNames_line (hfree line hline) (hapart line hline), List.flatMap_map]

end Block

end Dart

end Wireframe
