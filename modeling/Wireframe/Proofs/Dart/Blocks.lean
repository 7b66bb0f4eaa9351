import Mathlib.Data.List.Forall2
import Wireframe.Dart.Block
import Wireframe.Proofs.Dart.Brackets

/-!
# Source of blocks

What a block has of literals and brackets comes from its pieces. The fixed pieces are known in
advance and can be checked by evaluation; of what is filled in, names and source need a condition
(`Piece.Filled`), while a literal or a number can hold anything.

Main statement: `wellFormed_source`.
-/
namespace Wireframe

namespace Dart

open DartLiteral (quote escape)

/-! ## Numbers -/

theorem isDigit_of_mem_ofNat {n c : Nat} (h : c ∈ Text.ofNat n) : CodePoint.isDigit c = true := by
  obtain ⟨digit, hdigit, rfl⟩ := List.mem_map.1 h
  have hd := Nat.isDigit_of_mem_toDigits (by decide) (by decide) hdigit
  simp only [Char.isDigit, Bool.and_eq_true, decide_eq_true_eq, ge_iff_le, UInt32.le_iff_toNat_le]
    at hd
  simp only [CodePoint.isDigit, Bool.and_eq_true, decide_eq_true_eq]
  exact hd

theorem mem_ofInt {n : Int} {c : Nat} (h : c ∈ Text.ofInt n) :
    c = 0x2D ∨ CodePoint.isDigit c = true := by
  unfold Text.ofInt at h
  split at h
  · exact (List.mem_cons.1 h).imp_right isDigit_of_mem_ofNat
  · exact .inr (isDigit_of_mem_ofNat h)

theorem isPlain_ofInt (n : Int) : isPlain (Text.ofInt n) = true := by
  refine List.all_eq_true.2 fun c hc => ?_
  rcases mem_ofInt hc with rfl | hdigit
  · decide
  · simp [CodePoint.isDigit] at hdigit
    simp [CodePoint.isSurrogate, quote]
    omega

theorem not_isBracket_of_isAlphanumeric {c : Nat} (h : CodePoint.isAlphanumeric c = true) :
    isBracket c = false := by
  have hne {a : Nat} (ha : CodePoint.isAlphanumeric a = false) : c ≠ a := by
    rintro rfl
    rw [ha] at h
    cases h
  have h1 : c ≠ 0x28 := hne (by decide)
  have h2 : c ≠ 0x5B := hne (by decide)
  have h3 : c ≠ 0x7B := hne (by decide)
  have h4 : c ≠ 0x29 := hne (by decide)
  have h5 : c ≠ 0x5D := hne (by decide)
  have h6 : c ≠ 0x7D := hne (by decide)
  simp [isBracket, closer?, isCloser, h1, h2, h3, h4, h5, h6]

theorem wellBracketed_ofInt (n : Int) : WellBracketed (Text.ofInt n) := by
  refine .of_not_isBracket fun c hc => ?_
  rcases mem_ofInt hc with rfl | hdigit
  · decide
  · exact not_isBracket_of_isAlphanumeric (by rw [CodePoint.isAlphanumeric, hdigit, Bool.or_true])

/-! ## Pieces -/

namespace Piece

/-- What a filled place needs to leave the source around it as it is. -/
def Filled : Piece → Prop
  | name t => ∀ c ∈ t, CodePoint.isAlphanumeric c = true
  | source t => WellFormed t
  | _ => True

/-- Whether anything can be filled in. -/
def isFree : Piece → Bool
  | name _ => false
  | source _ => false
  | _ => true

theorem filled_of_isFree {p : Piece} (h : p.isFree = true) : p.Filled := by
  cases p with
  | name t => cases h
  | source t => cases h
  | _ => trivial

/-- The part of a piece that is known before anything is filled in. -/
def fixed : Piece → Text
  | code s => s
  | _ => []

/-- The characters of the fixed part. -/
inductive Spelled : Piece → List Char → Prop where
  | code (chars : List Char) : Spelled (code (String.ofList chars)) chars
  | literal (t : Text) : Spelled (literal t) []
  | number (n : Int) : Spelled (number n) []
  | name (t : Text) : Spelled (name t) []
  | source (t : Text) : Spelled (source t) []

theorem Spelled.fixed_eq {p : Piece} {chars : List Char} (h : p.Spelled chars) :
    p.fixed = chars.map Char.toNat := by
  cases h with
  | code chars => exact Text.of_chars (P := fun t => t = chars.map Char.toNat) rfl
  | _ => rfl

/-- The skeleton of a piece. -/
def outline : Piece → Text
  | code s => s
  | literal _ => [quote, quote]
  | number n => .ofInt n
  | name t => t
  | source t => skeleton t

/-- The literals of a piece. -/
def contents : Piece → List Text
  | literal t => [escape t]
  | source t => literals t
  | _ => []

variable {p : Piece} (hfilled : p.Filled) (hfixed : isPlain p.fixed = true)

include hfilled hfixed

theorem sealed_text : Sealed p.text := by
  cases p with
  | code s => exact sealed_of_isPlain hfixed
  | literal t => exact sealed_encode t
  | number n => exact sealed_of_isPlain (isPlain_ofInt n)
  | name t => exact sealed_of_isPlain (isPlain_of_isAlphanumeric hfilled)
  | source t => exact WellFormed.toSealed hfilled

theorem skeleton_text : skeleton p.text = p.outline := by
  cases p with
  | code s => exact skeleton_of_isPlain hfixed
  | literal t => exact skeleton_encode t
  | number n => exact skeleton_of_isPlain (isPlain_ofInt n)
  | name t => exact skeleton_of_isPlain (isPlain_of_isAlphanumeric hfilled)
  | source t => rfl

theorem literals_text : literals p.text = p.contents := by
  cases p with
  | code s => exact literals_of_isPlain hfixed
  | literal t => exact literals_encode t
  | number n => exact literals_of_isPlain (isPlain_ofInt n)
  | name t => exact literals_of_isPlain (isPlain_of_isAlphanumeric hfilled)
  | source t => rfl

omit hfixed

/-- What is filled in opens and closes no bracket around it. -/
theorem nest_outline (expected : List Nat) : nest expected p.outline = nest expected p.fixed := by
  cases p with
  | code s => rfl
  | literal t =>
    have hquotes : WellBracketed [quote, quote] := by decide
    exact hquotes.nest expected
  | number n => exact (wellBracketed_ofInt n).nest expected
  | name t =>
    refine nest_of_not_isBracket (fun c hc => ?_) expected
    exact not_isBracket_of_isAlphanumeric (hfilled c hc)
  | source t => exact (WellFormed.wellBracketed hfilled).nest expected

end Piece

/-! ## Blocks -/

theorem nest_flatMap_congr {α : Type} {items : List α} {f g : α → Text}
    (h : ∀ a ∈ items, ∀ expected, nest expected (f a) = nest expected (g a)) (expected : List Nat) :
    nest expected (items.flatMap f) = nest expected (items.flatMap g) := by
  induction items generalizing expected with
  | nil => rfl
  | cons a items ih =>
    obtain ⟨ha, hitems⟩ := List.forall_mem_cons.1 h
    rw [List.flatMap_cons, List.flatMap_cons, nest_append, nest_append, ha expected]
    congr 1
    funext between
    exact ih hitems between

theorem nest_join_lineFeed (ts : List Text) (expected : List Nat) :
    nest expected (Text.join "\n" ts) = nest expected ts.flatten := by
  have hlineFeed : WellBracketed (Text.ofString "\n") := by decide
  induction ts generalizing expected with
  | nil => rfl
  | cons t ts ih =>
    cases ts with
    | nil => rw [Text.join, List.flatten_cons, List.flatten_nil, List.append_nil]
    | cons t' ts =>
      rw [Text.join_cons_cons, nest_append, List.flatten_cons, nest_append]
      congr 1
      funext between
      rw [nest_append, hlineFeed.nest, Option.bind_some, ih]

namespace Block

/-- The fixed source of every line. -/
def fixed (block : Block) : List (List Text) := block.map fun line => line.map Piece.fixed

/-- Whether fixed source has no literals and its brackets match. -/
def isFrame (fixed : List (List Text)) : Bool :=
  fixed.all (·.all isPlain) && decide (WellBracketed (fixed.flatMap List.flatten))

/-- The fixed source of a block, given by the characters of its pieces. -/
theorem fixed_of_spelled {block : Block} {lines : List (List (List Char))}
    (h : List.Forall₂ (List.Forall₂ Piece.Spelled) block lines) :
    block.fixed = lines.map fun line => line.map fun chars => chars.map Char.toNat := by
  have hline {pieces : Line} {line : List (List Char)}
      (h : List.Forall₂ Piece.Spelled pieces line) :
      pieces.map Piece.fixed = line.map fun chars => chars.map Char.toNat := by
    induction h with
    | nil => rfl
    | cons hp _ ih => rw [List.map_cons, List.map_cons, hp.fixed_eq, ih]
  rw [fixed]
  induction h with
  | nil => rfl
  | cons hpieces _ ih => rw [List.map_cons, List.map_cons, hline hpieces, ih]

/-- Fixed source can be checked on the characters of its pieces. -/
theorem of_spelled {P : List (List Text) → Prop} {block : Block} {lines : List (List (List Char))}
    (h : List.Forall₂ (List.Forall₂ Piece.Spelled) block lines)
    (hlines : P (lines.map fun line => line.map fun chars => chars.map Char.toNat)) :
    P block.fixed := by
  rw [fixed_of_spelled h]
  exact hlines

theorem isFrame_of_spelled {block : Block} {lines : List (List (List Char))}
    (h : List.Forall₂ (List.Forall₂ Piece.Spelled) block lines)
    (hframe : isFrame (lines.map fun line => line.map fun chars => chars.map Char.toNat) = true) :
    isFrame block.fixed = true :=
  of_spelled (P := fun fixed => isFrame fixed = true) h hframe

def outline (block : Block) : Text := .join "\n" (block.map fun line => line.flatMap Piece.outline)

theorem outline_append {a b : Block} (ha : a ≠ []) (hb : b ≠ []) :
    outline (a ++ b) = outline a ++ ("\n" ++ outline b) := by
  rw [outline, List.map_append]
  exact Text.join_append "\n" (mt List.map_eq_nil_iff.1 ha) (mt List.map_eq_nil_iff.1 hb)

def contents (block : Block) : List Text := block.flatMap fun line => line.flatMap Piece.contents

variable {block : Block}

theorem isPlain_of_isFrame (hframe : isFrame block.fixed = true) {line : Line}
    (hline : line ∈ block) {p : Piece} (hp : p ∈ line) : isPlain p.fixed = true := by
  rw [isFrame, Bool.and_eq_true] at hframe
  have hlines := List.all_eq_true.1 hframe.1 (line.map Piece.fixed) (List.mem_map_of_mem hline)
  exact List.all_eq_true.1 hlines p.fixed (List.mem_map_of_mem hp)

variable (hfilled : ∀ line ∈ block, ∀ p ∈ line, p.Filled)

include hfilled

theorem nest_outline (expected : List Nat) :
    nest expected block.outline = nest expected (block.fixed.flatMap List.flatten) := by
  rw [outline, nest_join_lineFeed, ← List.flatMap_def, fixed, List.flatMap_map]
  refine nest_flatMap_congr (fun line hline between => ?_) expected
  rw [← List.flatMap_def]
  exact nest_flatMap_congr (fun p hp => Piece.nest_outline (hfilled line hline p hp)) between

variable (hframe : isFrame block.fixed = true)

include hframe

theorem sealed_piece {line : Line} (hline : line ∈ block) :
    ∀ t ∈ line.map Piece.text, Sealed t := by
  intro t ht
  obtain ⟨p, hp, rfl⟩ := List.mem_map.1 ht
  exact Piece.sealed_text (hfilled line hline p hp) (isPlain_of_isFrame hframe hline hp)

theorem sealed_line : ∀ t ∈ block.map Line.text, Sealed t := by
  intro t ht
  obtain ⟨line, hline, rfl⟩ := List.mem_map.1 ht
  rw [Line.text, List.flatMap_def]
  exact sealed_concat (sealed_piece hfilled hframe hline)

theorem skeleton_source : skeleton block.source = block.outline := by
  rw [source, skeleton_join (sealed_line hfilled hframe) isPlain_lineFeed, outline, List.map_map]
  congr 1
  refine List.map_congr_left fun line hline => ?_
  have hline' := skeleton_concat (sealed_piece hfilled hframe hline)
  rw [Text.concat, Text.concat, List.map_map] at hline'
  rw [Function.comp_apply, Line.text, List.flatMap_def, hline', ← List.flatMap_def]
  refine List.flatMap_congr fun p hp => ?_
  exact Piece.skeleton_text (hfilled line hline p hp) (isPlain_of_isFrame hframe hline hp)

theorem literals_source : literals block.source = block.contents := by
  rw [source, literals_join (sealed_line hfilled hframe) isPlain_lineFeed, contents,
    List.flatMap_map]
  refine List.flatMap_congr fun line hline => ?_
  have hline' := literals_concat (sealed_piece hfilled hframe hline)
  rw [Text.concat, ← List.flatMap_def, List.flatMap_map] at hline'
  rw [Line.text, hline']
  refine List.flatMap_congr fun p hp => ?_
  exact Piece.literals_text (hfilled line hline p hp) (isPlain_of_isFrame hframe hline hp)

/-- Nothing that is filled in can break the source of a block. -/
theorem wellFormed_source : WellFormed block.source := by
  refine ⟨sealed_join (sealed_line hfilled hframe) isPlain_lineFeed, ?_⟩
  rw [skeleton_source hfilled hframe, WellBracketed, nest_outline hfilled]
  rw [isFrame, Bool.and_eq_true, decide_eq_true_eq] at hframe
  exact hframe.2

end Block

end Dart

end Wireframe
