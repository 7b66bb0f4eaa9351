import Wireframe.Proofs.Dart.Spelling
import Wireframe.Proofs.Dart.TypeNames
import Wireframe.Proofs.Widget.Fragment

/-!
# Types of widgets

The types that widgets, rows and columns refer to are all in `flutterNames`, the list of library
names: every template and every fixed part of a row or a column is looked through for its type
names. Numbers, texts and indentation add none.

Main statement: `Canvas.isLibraryTyped_of_render_eq_ok`.
-/
namespace Wireframe

namespace Dart

/-! ## Looking through fixed source -/

/-- Whether source refers to types of the library only. -/
def IsLibraryTyped (t : Text) : Prop := ∀ name ∈ typeNames t, name ∈ flutterNames

/-- The same by evaluation. -/
def namesLibrary (t : Text) : Bool := (typeNames t).all librarySpelling.texts.contains

theorem isLibraryTyped_of_namesLibrary {t : Text} (h : namesLibrary t = true) :
    IsLibraryTyped t := by
  intro name hname
  have hcontains := List.all_eq_true.1 h name hname
  rwa [librarySpelling.texts_eq, List.contains_iff_mem] at hcontains

/-- Fixed source that something can follow. -/
def isLibraryOpening (t : Text) : Bool := endsApart t && namesLibrary t

/-- Fixed source that can follow something. -/
def isLibraryClosing (t : Text) : Bool := startsApart t && namesLibrary t

theorem isLibraryOpening_of_chars {chars : List Char}
    (h : isLibraryOpening (chars.map Char.toNat) = true) :
    isLibraryOpening (Text.ofString (String.ofList chars)) = true :=
  Text.of_chars (P := fun t => isLibraryOpening t = true) h

theorem isLibraryClosing_of_chars {chars : List Char}
    (h : isLibraryClosing (chars.map Char.toNat) = true) :
    isLibraryClosing (Text.ofString (String.ofList chars)) = true :=
  Text.of_chars (P := fun t => isLibraryClosing t = true) h

namespace IsLibraryTyped

theorem of_append {a b : Text} (happend : typeNames (a ++ b) = typeNames a ++ typeNames b)
    (ha : IsLibraryTyped a) (hb : IsLibraryTyped b) : IsLibraryTyped (a ++ b) := by
  intro name hname
  rw [happend] at hname
  rcases List.mem_append.1 hname with hname | hname
  · exact ha name hname
  · exact hb name hname

theorem after {opening t : Text} (hopening : isLibraryOpening opening = true)
    (h : IsLibraryTyped t) : IsLibraryTyped (opening ++ t) := by
  obtain ⟨hends, hnames⟩ := Bool.and_eq_true_iff.1 hopening
  exact .of_append (typeNames_append_of_endsApart hends t)
    (isLibraryTyped_of_namesLibrary hnames) h

theorem before {closing t : Text} (hclosing : isLibraryClosing closing = true)
    (h : IsLibraryTyped t) : IsLibraryTyped (t ++ closing) := by
  obtain ⟨hstarts, hnames⟩ := Bool.and_eq_true_iff.1 hclosing
  exact .of_append (typeNames_append_of_startsApart t hstarts) h
    (isLibraryTyped_of_namesLibrary hnames)

theorem indent (levels : Nat) {t : Text} (h : IsLibraryTyped t) :
    IsLibraryTyped (indent levels t) := by
  rwa [IsLibraryTyped, typeNames_indent]

theorem hangingIndent (levels : Nat) {t : Text} (h : IsLibraryTyped t) :
    IsLibraryTyped (hangingIndent levels t) := by
  rwa [IsLibraryTyped, typeNames_hangingIndent]

theorem listEntries (levels : Nat) {items : List Text} (h : ∀ item ∈ items, IsLibraryTyped item) :
    IsLibraryTyped (listEntries levels items) := by
  intro name hname
  rw [typeNames_listEntries] at hname
  obtain ⟨item, hitem, hname⟩ := List.mem_flatMap.1 hname
  exact h item hitem name hname

end IsLibraryTyped

namespace Block

/-- Whether all fixed source refers to types of the library and can be read apart from what is
filled in. -/
def isLibraryFrame (fixed : List (List Text)) : Bool :=
  fixed.all isApart && fixed.all (·.all namesLibrary)

theorem isLibraryTyped_outline {block : Block} {lines : List (List (List Char))}
    (hfree : ∀ line ∈ block, ∀ p ∈ line, p.isFree = true)
    (hspelled : List.Forall₂ (List.Forall₂ Piece.Spelled) block lines)
    (hframe : isLibraryFrame (lines.map fun line => line.map fun chars => chars.map Char.toNat) =
      true) : IsLibraryTyped block.outline := by
  rw [← fixed_of_spelled hspelled] at hframe
  obtain ⟨hapart, hnames⟩ := Bool.and_eq_true_iff.1 hframe
  intro name hname
  rw [typeNames_outline hfree hapart] at hname
  obtain ⟨line, hline, hname⟩ := List.mem_flatMap.1 hname
  obtain ⟨code, hcode, hname⟩ := List.mem_flatMap.1 hname
  have hcodes := List.all_eq_true.1 (List.all_eq_true.1 hnames line hline) code hcode
  exact isLibraryTyped_of_namesLibrary hcodes name hname

end Block

end Dart

open Dart

/-! ## Templates -/

theorem Widget.isLibraryTyped_source (w : Widget) (kind : Kind) :
    IsLibraryTyped (skeleton (w.source kind)) := by
  have hfree := isFree_block w kind
  rw [source, Block.skeleton_source (filled_block w kind) (isFrame_block w kind)]
  cases kind <;>
    exact Block.isLibraryTyped_outline hfree (by repeat' constructor) (by decide +kernel)

/-! ## Rows and columns -/

namespace Layout

theorem isLibraryTyped_expandedPart {code : Text} (h : IsLibraryTyped code) :
    IsLibraryTyped (expandedPart code) := by
  have hchild : IsLibraryTyped (childOpening ++ (code ++ [])) := by
    rw [List.append_nil]
    exact .after (isLibraryOpening_of_chars (by decide)) h
  rw [expandedPart_eq]
  exact .after (isLibraryOpening_of_chars (by decide))
    (.before (isLibraryClosing_of_chars (by decide)) (hchild.indent 1))

theorem isLibraryClosing_listClosing : isLibraryClosing listClosing = true :=
  isLibraryClosing_of_chars (by decide)

theorem isLibraryTyped_rowSource {parts : List Text} (h : ∀ part ∈ parts, IsLibraryTyped part) :
    IsLibraryTyped (rowSource parts) := by
  by_cases hparts : parts = []
  · rw [hparts]
    exact isLibraryTyped_of_namesLibrary (by decide)
  · rw [rowSource_eq hparts]
    refine .after (isLibraryOpening_of_chars (by decide))
      (.before isLibraryClosing_listClosing (.listEntries 2 fun part hpart => ?_))
    obtain ⟨code, hcode, rfl⟩ := List.mem_map.1 hpart
    exact isLibraryTyped_expandedPart (h code hcode)

theorem isLibraryTyped_spacer (gap : Int) : IsLibraryTyped (spacer gap) := by
  have hgap : IsLibraryTyped (Text.ofInt gap) := by
    rw [IsLibraryTyped, typeNames_ofInt]
    exact List.forall_mem_nil _
  rw [spacer_eq]
  exact .after (isLibraryOpening_of_chars (by decide))
    (.before (isLibraryClosing_of_chars (by decide)) hgap)

theorem isLibraryOpening_columnOpening : isLibraryOpening columnOpening = true :=
  isLibraryOpening_of_chars (by decide)

theorem isLibraryTyped_columnSource (gap : Int) (trailingGap : Bool) {parts : List Text}
    (h : ∀ part ∈ parts, IsLibraryTyped part) :
    IsLibraryTyped (columnSource gap trailingGap parts) := by
  by_cases hparts : parts = []
  · have hclosing : namesLibrary columnClosing = true :=
      Text.of_chars (P := fun t => namesLibrary t = true) (by decide)
    rw [hparts, columnSource_nil]
    exact .after isLibraryOpening_columnOpening (isLibraryTyped_of_namesLibrary hclosing)
  · have hlineFeed : isLibraryOpening (Text.ofString "\n") = true := by decide
    rw [columnSource_eq gap trailingGap hparts, List.append_assoc]
    refine .after isLibraryOpening_columnOpening (.after hlineFeed
      (.before isLibraryClosing_listClosing (.listEntries 2 fun part hpart => ?_)))
    rcases mem_spaced _ _ hpart with rfl | hpart
    · exact isLibraryTyped_spacer gap
    · exact h part hpart

end Layout

/-! ## Trees -/

namespace Canvas

theorem isLibraryTyped_of_render_eq_ok {canvas : Canvas} {tree : Layout Detection} {body : Text}
    (h : canvas.render tree = .ok body) : IsLibraryTyped (skeleton body) := by
  obtain ⟨-, rfl⟩ := Layout.render_eq_ok_iff.1 h
  have hleaf (d : Detection) :
      WellFormed (((canvas.fragment d).map (·.code)).toOption.getD []) ∧
        IsLibraryTyped (skeleton (((canvas.fragment d).map (·.code)).toOption.getD [])) := by
    rcases sides_cases canvas with ⟨width, height, hwidth, hheight⟩ | hmissing
    · rw [fragment_code hwidth hheight]
      exact ⟨wellFormed_leafText width height d, Widget.isLibraryTyped_source _ d.kind⟩
    · rw [fragment_code_of_missing hmissing]
      exact ⟨.nil, isLibraryTyped_of_namesLibrary (by decide)⟩
  rw [Layout.skeleton_source fun d => (hleaf d).1.toSealed]
  exact Layout.source_induction (fun d => (hleaf d).2)
    (fun _ => Layout.isLibraryTyped_rowSource)
    (fun gap trailingGap _ => Layout.isLibraryTyped_columnSource gap trailingGap) tree

end Canvas

end Wireframe
