import Wireframe.Proofs.Dart.Members
import Wireframe.Proofs.Page.Fidelity
import Wireframe.Proofs.Widget.LibraryTypes

/-!
# Fresh class names

A class name is fresh if neither a type that the page refers to nor a member of its two classes has
the same name. To tell the places of the class name from all others, the page is read with a digit
in them: no class name starts with one.

Class names avoid all library names, and with them every type of a page. The two overridden members
are no library names: a page whose name is one of them is not fresh, and every other one is
(`Generator.generate_isFresh_iff`).
-/
namespace Wireframe

open Dart

namespace Page

/-! ## Pages without a name -/

/-- A digit in the places of the class name. -/
def placeholder : Text := "0"

theorem ne_placeholder_of_isUsable {name : Text} (h : PageName.isUsable name = true) :
    name ≠ placeholder := by
  rintro rfl
  rw [PageName.isUsable, Bool.and_eq_true] at h
  exact absurd h.1 (by decide)

theorem isAlphanumeric_placeholder : ∀ c ∈ placeholder, CodePoint.isAlphanumeric c = true := by
  decide

/-- The members that the two classes of a page override. -/
def overridden : List Text := List.map Text.ofString ["createState", "build"]

/-- A class name that nothing else in the page with this body has. -/
structure IsFresh (name body : Text) : Prop where
  not_mem_typeNames : name ∉ typeNames (skeleton (scaffold placeholder body).source)
  not_mem_members : name ∉ members (scaffold placeholder body).source

/-- The body of a page. -/
structure HasBody (page : Page) (body : Text) : Prop where
  source_eq : page.source = (scaffold page.name body).source
  wellFormed : WellFormed body
  isLibraryTyped : IsLibraryTyped (skeleton body)

/-- The characters of the outline of a piece. -/
inductive Outlined : Piece → List Char → Prop where
  | code (chars : List Char) : Outlined (.code (String.ofList chars)) chars
  | literal (t : Text) : Outlined (.literal t) ['\'', '\'']
  | name (chars : List Char) : Outlined (.name (Text.ofString (String.ofList chars))) chars

theorem Outlined.outline_eq {p : Piece} {chars : List Char} (h : Outlined p chars) :
    p.outline = chars.map Char.toNat := by
  cases h with
  | literal t => rfl
  | _ => exact Text.of_chars (P := fun t => t = chars.map Char.toNat) rfl

theorem outline_of_outlined (block : Block) {lines : List (List (List Char))}
    (h : List.Forall₂ (List.Forall₂ Outlined) block lines) :
    Block.outline block =
      Text.join "\n" (lines.map fun line => line.flatMap fun chars => chars.map Char.toNat) := by
  have hline {pieces : Line} {line : List (List Char)} (h : List.Forall₂ Outlined pieces line) :
      pieces.flatMap Piece.outline = line.flatMap fun chars => chars.map Char.toNat := by
    induction h with
    | nil => rfl
    | cons hp _ ih => rw [List.flatMap_cons, List.flatMap_cons, hp.outline_eq, ih]
  rw [Block.outline]
  congr 1
  induction h with
  | nil => rfl
  | cons hpieces _ ih => rw [List.map_cons, List.map_cons, hline hpieces, ih]

/-- The lines above the body. -/
def upper : Block := (pieces placeholder []).take 20

/-- The lines below the body. -/
def lower : Block := (pieces placeholder []).drop 21

/-- What stands before the body. -/
def opening : Text := Block.outline upper ++ ("\n" ++ "          child: ")

/-- What stands after the body. -/
def closing : Text := "," ++ ("\n" ++ Block.outline lower)

theorem skeleton_placeholder {body : Text} (h : WellFormed body) :
    skeleton (scaffold placeholder body).source = opening ++ (skeleton body ++ closing) := by
  let line : Line := ["          child: ", .source body, ","]
  have hpieces : pieces placeholder body = upper ++ ([line] ++ lower) := rfl
  have hupper : upper ≠ [] := List.cons_ne_nil _ _
  have hlower : lower ≠ [] := List.cons_ne_nil _ _
  have hrest : [line] ++ lower ≠ [] := List.cons_ne_nil line lower
  have hline : Block.outline [line] = "          child: " ++ (skeleton body ++ ",") := by
    simp [Block.outline, Text.join, line, Piece.outline]
  rw [source_scaffold, Block.skeleton_source (filled_pieces isAlphanumeric_placeholder h)
      (isFrame_pieces placeholder body), hpieces,
    Block.outline_append hupper hrest,
    Block.outline_append (List.cons_ne_nil line []) hlower, hline, opening, closing]
  simp only [List.append_assoc]

theorem isLibraryOpening_opening : isLibraryOpening opening = true := by
  have houtline := outline_of_outlined upper (by repeat' constructor)
  rw [opening, houtline]
  decide +kernel

theorem isLibraryClosing_closing : isLibraryClosing closing = true := by
  have houtline := outline_of_outlined lower (by repeat' constructor)
  rw [closing, houtline]
  decide

/-- Where the body stands: in three parentheses, in the body of a method of a class. -/
def inBody : MemberReader :=
  ⟨[0x29, 0x29, 0x29, closingBrace, closingBrace], none, placeholder :: overridden⟩

theorem read_opening : MemberReader.start.read opening = some inBody := by
  have houtline := outline_of_outlined upper (by repeat' constructor)
  rw [opening, houtline]
  decide +kernel

theorem read_closing :
    (inBody.read closing).map (·.members) = some (placeholder :: overridden) := by
  have houtline := outline_of_outlined lower (by repeat' constructor)
  rw [closing, houtline]
  decide

section Body

variable {body : Text} (hbody : WellFormed body)

include hbody

/-- Besides its constructor a page has the members that it overrides. -/
theorem members_placeholder :
    members (scaffold placeholder body).source = placeholder :: overridden := by
  have hdeep : 2 ≤ inBody.expected.length := by decide
  rw [members, skeleton_placeholder hbody, MemberReader.read_append, read_opening,
    Option.bind_some, MemberReader.read_append,
    MemberReader.read_of_wellBracketed hdeep hbody.wellBracketed, Option.bind_some, read_closing]
  rfl

theorem isLibraryTyped_placeholder (htyped : IsLibraryTyped (skeleton body)) :
    IsLibraryTyped (skeleton (scaffold placeholder body).source) := by
  rw [skeleton_placeholder hbody]
  exact .after isLibraryOpening_opening (.before isLibraryClosing_closing htyped)

/-- A class name is fresh unless it is that of an overridden member. -/
theorem isFresh_iff {name : Text} (hname : PageName.isUsable name = true)
    (htyped : IsLibraryTyped (skeleton body)) : IsFresh name body ↔ name ∉ overridden := by
  have hmembers := members_placeholder hbody
  refine ⟨fun h hmem => h.not_mem_members ?_, fun h => ⟨fun hmem => ?_, fun hmem => ?_⟩⟩
  · rw [hmembers]
    exact List.mem_cons_of_mem placeholder hmem
  · exact PageName.not_mem_flutterNames_of_isUsable hname
      (isLibraryTyped_placeholder hbody htyped name hmem)
  · rw [hmembers] at hmem
    exact (List.mem_cons.1 hmem).elim (ne_placeholder_of_isUsable hname) h

end Body

end Page

namespace Generator

theorem exists_body {g : Generator}
    (hname : ∀ c ∈ g.defaultPageName, CodePoint.isAlphanumeric c = true)
    {detections : List Detection} {given : Option Text} {page : Page}
    (h : g.generate detections given = .ok page) :
    page.name = g.pageName given ∧ ∃ body, page.HasBody body := by
  obtain ⟨body, hbody, -, rfl⟩ := generate_eq_ok_iff.1 h
  have hkept : PageName.ofText (g.pageName given) g.defaultPageName = g.pageName given :=
    PageName.ofText_ofText hname _
  have hwellFormed := Canvas.wellFormed_of_render_eq_ok hbody
  have hcontent := Page.wellFormed_content hwellFormed
  refine ⟨rfl, hangingIndent Page.bodyLevels (Page.content body), ?_,
    hcontent.hangingIndent Page.bodyLevels, ?_⟩
  · exact congrArg (fun name => (Page.scaffold name _).source) hkept
  · rw [skeleton_hangingIndent Page.bodyLevels hcontent.toSealed]
    refine .hangingIndent Page.bodyLevels ?_
    rw [Page.skeleton_content, Page.content]
    split
    · exact isLibraryTyped_of_namesLibrary
        (Text.of_chars (P := fun t => namesLibrary t = true) (by decide))
    · exact Canvas.isLibraryTyped_of_render_eq_ok hbody

/-- **When a class name is fresh.** Of a page that a generator makes, read with a digit in the
places of its class name: every type is one of the library and none has the name of the class; the
classes have two members besides the constructor, both overridden; and the class name is fresh
exactly if it is not the name of one of these. -/
theorem generate_isFresh_iff {settings : Settings} {options : GeneratorOptions} {g : Generator}
    (hbuild : build settings options = .ok g) (detections : List Detection) (given : Option Text)
    {page : Page} (hpage : g.generate detections given = .ok page) :
    ∃ body, page.source = (Page.scaffold page.name body).source ∧
      (∀ name ∈ typeNames (skeleton (Page.scaffold Page.placeholder body).source),
        name ∈ flutterNames ∧ name ≠ page.name) ∧
      members (Page.scaffold Page.placeholder body).source =
        [Page.placeholder, Text.ofString "createState", Text.ofString "build"] ∧
      (Page.IsFresh page.name body ↔
        page.name ≠ Text.ofString "createState" ∧ page.name ≠ Text.ofString "build") := by
  obtain ⟨hname, body, hbody⟩ := exists_body (alphanumeric_of_build hbuild) hpage
  have husable : PageName.isUsable page.name = true := by
    rw [hname]
    exact isUsable_pageName (isUsable_of_build hbuild) given
  have htyped := Page.isLibraryTyped_placeholder hbody.wellFormed hbody.isLibraryTyped
  refine ⟨body, hbody.source_eq, fun name hmem => ⟨htyped name hmem, ?_⟩,
    Page.members_placeholder hbody.wellFormed, ?_⟩
  · rintro rfl
    exact PageName.not_mem_flutterNames_of_isUsable husable (htyped _ hmem)
  · rw [Page.isFresh_iff hbody.wellFormed husable hbody.isLibraryTyped]
    simp [Page.overridden]

section Clash

/-- A page name that is an overridden member. -/
def clashingName : Text := "createState"

theorem pageName_clashingName : unitGenerator.pageName (some clashingName) = clashingName :=
  pageName_eq_self unitGenerator (PageName.isClassName_of_chars (by decide) (by decide))

/-- What the theorem says of an empty page of that name. -/
theorem generate_isFresh_clashingName :
    ∃ page body, unitGenerator.generate [] (some clashingName) = .ok page ∧
      page.source = (Page.scaffold page.name body).source ∧
      (Page.IsFresh page.name body ↔
        page.name ≠ Text.ofString "createState" ∧ page.name ≠ Text.ofString "build") := by
  obtain ⟨page, hpage⟩ := exists_generate_unitGenerator [] (some clashingName)
  obtain ⟨body, hsource, -, -, hfresh⟩ :=
    generate_isFresh_iff build_unitOptions [] (some clashingName) hpage
  exact ⟨page, body, hpage, hsource, hfresh⟩

/-- The class of that page has the name of one of its members. -/
theorem generate_clashes_clashingName :
    build Settings.standard unitOptions = .ok unitGenerator ∧
    ∃ page body, unitGenerator.generate [] (some clashingName) = .ok page ∧
      page.source = (Page.scaffold page.name body).source ∧
      page.name = Text.ofString "createState" ∧
      page.name ∈ members (Page.scaffold Page.placeholder body).source ∧
      ¬ Page.IsFresh page.name body := by
  obtain ⟨page, hpage⟩ := exists_generate_unitGenerator [] (some clashingName)
  obtain ⟨hname, body, hbody⟩ := exists_body (alphanumeric_of_build build_unitOptions) hpage
  rw [pageName_clashingName] at hname
  have hmember : page.name ∈ members (Page.scaffold Page.placeholder body).source := by
    rw [Page.members_placeholder hbody.wellFormed, hname]
    exact List.mem_cons_of_mem Page.placeholder List.mem_cons_self
  exact ⟨build_unitOptions, page, body, hpage, hbody.source_eq, hname, hmember,
    fun hfresh => hfresh.not_mem_members hmember⟩

end Clash

end Generator

end Wireframe
