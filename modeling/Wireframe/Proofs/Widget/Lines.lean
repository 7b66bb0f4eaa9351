import Wireframe.Proofs.Layout.Rendering
import Wireframe.Proofs.Text.LineCount
import Wireframe.Proofs.Text.Passages

/-!
# Lines of templates

The lines of a template are its own: what is filled in has no line feed, and no line is empty. So
the source of a widget has no blank line in it, whatever it shows (`Widget.isPassage_source`), and
as many lines as its template (`Widget.lineCount_source`).
-/
namespace Wireframe

namespace Dart

open CodePoint (lineFeed)

open DartLiteral (quote encode)

theorem lineFeed_not_mem_encode (t : Text) : lineFeed ∉ encode t := by
  have hquote : lineFeed ≠ quote := by decide
  have hescape : lineFeed ∉ DartLiteral.escape t :=
    fun h => (mem_escape h).1 List.mem_cons_self
  simp [encode_eq, hquote, hescape]

theorem lineFeed_not_mem_ofInt (n : Int) : lineFeed ∉ Text.ofInt n := by
  intro h
  rcases mem_ofInt h with h | h <;> revert h <;> decide

/-- What can be filled in freely brings no line feed with it. -/
theorem Piece.lineFeed_not_mem_text {p : Piece} (hfree : p.isFree = true)
    (hfixed : lineFeed ∉ p.fixed) : lineFeed ∉ p.text := by
  cases p with
  | code s => exact hfixed
  | literal t => exact lineFeed_not_mem_encode t
  | number n => exact lineFeed_not_mem_ofInt n
  | name t => cases hfree
  | source t => cases hfree

theorem Piece.text_eq_fixed {p : Piece} (h : p.fixed ≠ []) : p.text = p.fixed := by
  cases p with
  | code s => rfl
  | _ => exact absurd rfl h

namespace Block

/-- Whether fixed source consists of lines that are not empty. -/
def isLined (fixed : List (List Text)) : Bool :=
  fixed.all fun line => line.any (!·.isEmpty) && line.all (!·.contains lineFeed)

/-- Each line of a block is one line of its source, and not an empty one. -/
theorem line_of_isLined {block : Block} (hfree : ∀ line ∈ block, ∀ p ∈ line, p.isFree = true)
    (hlined : isLined block.fixed = true) :
    ∀ line ∈ block, line.text ≠ [] ∧ lineFeed ∉ line.text := by
  intro line hline
  have hfixed := List.all_eq_true.1 hlined (line.map Piece.fixed) (List.mem_map_of_mem hline)
  rw [Bool.and_eq_true, List.any_map, List.all_map] at hfixed
  obtain ⟨hsome, hall⟩ := hfixed
  constructor
  · obtain ⟨p, hp, hne⟩ := List.any_eq_true.1 hsome
    have hfilled : p.fixed ≠ [] := by simpa using hne
    have htext : p.text ≠ [] := Piece.text_eq_fixed hfilled ▸ hfilled
    intro hnil
    exact htext (List.flatMap_eq_nil_iff.1 hnil p hp)
  · rw [Line.text, List.mem_flatMap]
    rintro ⟨p, hp, hmem⟩
    have hp' := List.all_eq_true.1 hall p hp
    refine Piece.lineFeed_not_mem_text (hfree line hline p hp) ?_ hmem
    simpa using hp'

/-! ## Counting -/

/-- Whether no line of fixed source has a line feed in it. -/
def isUnbroken (fixed : List (List Text)) : Bool := fixed.all (·.all (!·.contains lineFeed))

end Block

/-- How many line feeds come with what is filled in. -/
def Piece.feeds : Piece → Nat
  | name t => t.count lineFeed
  | source t => t.count lineFeed
  | _ => 0

theorem Piece.count_text {p : Piece} (hfixed : lineFeed ∉ p.fixed) :
    p.text.count lineFeed = p.feeds := by
  cases p with
  | code s => exact List.count_eq_zero_of_not_mem hfixed
  | literal t => exact List.count_eq_zero_of_not_mem (lineFeed_not_mem_encode t)
  | number n => exact List.count_eq_zero_of_not_mem (lineFeed_not_mem_ofInt n)
  | name t => rfl
  | source t => rfl

theorem Line.lineCount_text {line : Line} (hfixed : ∀ p ∈ line, lineFeed ∉ p.fixed) :
    line.text.lineCount = 1 + (line.map Piece.feeds).sum := by
  have hpieces : line.map (List.count lineFeed ∘ Piece.text) = line.map Piece.feeds :=
    List.map_congr_left fun p hp => Piece.count_text (hfixed p hp)
  rw [Text.lineCount, Line.text, List.flatMap_def, List.count_flatten, List.map_map, hpieces,
    Nat.add_comm]

/-- A block has its own lines and those that come with what is filled in. -/
theorem Block.lineCount_source {block : Block} (hne : block ≠ [])
    (hunbroken : isUnbroken block.fixed = true) :
    block.source.lineCount =
      block.length + (block.map fun line => (line.map Piece.feeds).sum).sum := by
  have hfixed : ∀ line ∈ block, ∀ p ∈ line, lineFeed ∉ p.fixed := by
    intro line hline p hp
    have hpieces := List.all_eq_true.1 hunbroken (line.map Piece.fixed) (List.mem_map_of_mem hline)
    simpa using List.all_eq_true.1 hpieces p.fixed (List.mem_map_of_mem hp)
  have hlines : block.map (Text.lineCount ∘ Line.text) =
      block.map fun line => 1 + (line.map Piece.feeds).sum :=
    List.map_congr_left fun line hline => Line.lineCount_text (hfixed line hline)
  rw [source, Text.lineCount_join (mt List.map_eq_nil_iff.1 hne), List.map_map, hlines]
  clear hne hunbroken hfixed hlines
  induction block with
  | nil => rfl
  | cons line block ih =>
    simp only [List.map_cons, List.sum_cons, List.length_cons, ih]
    omega

end Dart

/-- How many lines the template of a kind has. -/
def Kind.lineCount : Kind → Nat
  | .button | .textField => 10
  | .text => 4
  | .container | .drawer | .modal | .unknown => 11
  | .image => 13
  | .icon | .switch => 5
  | .checkbox => 6
  | .pageIndicator => 17
  | .statusBar => 0

namespace Widget

open Dart

theorem line_block (w : Widget) (kind : Kind) :
    ∀ line ∈ w.block kind, line.text ≠ [] ∧ CodePoint.lineFeed ∉ line.text := by
  refine Block.line_of_isLined (isFree_block w kind) ?_
  cases kind <;> exact Block.of_spelled (P := fun fixed => Block.isLined fixed = true)
    (by repeat' constructor) (by decide +kernel)

theorem isPassage_source (w : Widget) (kind : Kind) : (w.source kind).IsPassage := by
  refine Text.isPassage_join ?_
  intro text htext
  obtain ⟨line, hline, rfl⟩ := List.mem_map.1 htext
  exact line_block w kind line hline

/-- Neither text nor size has a say in the number of lines. -/
theorem lineCount_source (w : Widget) {kind : Kind} (h : kind ≠ .statusBar) :
    (w.source kind).lineCount = kind.lineCount := by
  have hlines : (w.block kind).map (Text.lineCount ∘ Line.text) = (w.block kind).map fun _ => 1 :=
    List.map_congr_left fun line hline => Text.lineCount_of_not_mem (line_block w kind line hline).2
  have hlength : (w.block kind).length = kind.lineCount := by cases kind <;> rfl
  have hne : w.block kind ≠ [] := by
    cases kind with
    | statusBar => exact absurd rfl h
    | _ => exact List.cons_ne_nil _ _
  rw [source, Block.source, Text.lineCount_join (mt List.map_eq_nil_iff.1 hne), List.map_map,
    hlines, List.map_const', List.sum_replicate_nat, Nat.mul_one, hlength]

end Widget

end Wireframe
