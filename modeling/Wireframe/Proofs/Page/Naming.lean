import Wireframe.Proofs.Dart.Spelling
import Wireframe.Proofs.Page.Existence
import Wireframe.Proofs.Page.Scaffold

/-!
# Names of pages

Three times a name is made usable on the way to a page: the default name when a generator is built,
the name that is asked for, and the name of the scaffold. Each time what cannot be used gives way to
a fallback, which in the end is the standard name, so that every result is a class name; and a class
name is taken as it is, so that the last step does nothing.

Main statement: `Generator.generate_isNamed`.
-/
namespace Wireframe

open Dart

namespace PageName

/-! ## Usable names -/

theorem isUsable_iff {name : Text} :
    isUsable name = true ↔ (∃ c rest, name = c :: rest ∧ CodePoint.isLetter c = true) ∧
      name ∉ reservedWords ∧ name ∉ flutterNames ∧ name ∉ annotations := by
  have hhead : name.head?.any CodePoint.isLetter = true ↔
      ∃ c rest, name = c :: rest ∧ CodePoint.isLetter c = true := by
    cases name with
    | nil => simp
    | cons c rest => simp
  rw [isUsable, Bool.and_eq_true, hhead, Bool.not_eq_true', List.contains_eq_mem,
    decide_eq_false_iff_not, takenNames, List.mem_append, List.mem_append, not_or, not_or,
    and_assoc]

/-- A name can be checked on its characters. -/
theorem isUsable_of_chars {chars : List Char}
    (h : ((chars.map Char.toNat).head?.any CodePoint.isLetter &&
      !takenSpelling.texts.contains (chars.map Char.toNat)) = true) :
    isUsable (Text.ofString (String.ofList chars)) = true := by
  refine Text.of_chars (P := fun name => isUsable name = true) ?_
  rwa [takenSpelling.texts_eq] at h

/-- A name that does not serve is replaced, so that the result serves if the other one does. -/
theorem isUsable_ofText {given fallback : Text} (hfallback : isUsable fallback = true) :
    isUsable (ofText given fallback) = true := by
  unfold ofText
  split
  · assumption
  · exact hfallback

/-- A class name is kept when it is given again. -/
theorem ofText_ofText {fallback : Text}
    (hfallback : ∀ c ∈ fallback, CodePoint.isAlphanumeric c = true) (given : Text) :
    ofText (ofText given fallback) fallback = ofText given fallback := by
  by_cases husable : isUsable (cleaned given) = true
  · have hcleaned : cleaned (cleaned given) = cleaned given :=
      List.filter_eq_self.2 fun c hc => mem_cleaned hc
    rw [ofText, ofText, if_pos husable, hcleaned, if_pos husable]
  · have hcleaned : cleaned fallback = fallback := List.filter_eq_self.2 hfallback
    rw [ofText, ofText, if_neg husable, hcleaned, ite_self]

theorem not_mem_flutterNames_of_isUsable {name : Text} (h : isUsable name = true) :
    name ∉ flutterNames := (isUsable_iff.1 h).2.2.1

/-! ## Class names -/

/-- What can name a page class: ASCII letters and digits from a letter on, and neither a word of the
language nor a name that the page itself uses. -/
structure IsClassName (name : Text) : Prop where
  alphanumeric : ∀ c ∈ name, CodePoint.isAlphanumeric c = true
  starts : ∃ c rest, name = c :: rest ∧ CodePoint.isLetter c = true
  not_reserved : name ∉ reservedWords
  not_library : name ∉ flutterNames
  not_annotation : name ∉ annotations

theorem isClassName_iff {name : Text} :
    IsClassName name ↔
      isUsable name = true ∧ ∀ c ∈ name, CodePoint.isAlphanumeric c = true := by
  rw [isUsable_iff]
  constructor
  · intro h
    exact ⟨⟨h.starts, h.not_reserved, h.not_library, h.not_annotation⟩, h.alphanumeric⟩
  · rintro ⟨⟨hstarts, hreserved, hlibrary, hannotation⟩, halphanumeric⟩
    exact ⟨halphanumeric, hstarts, hreserved, hlibrary, hannotation⟩

theorem isClassName_of_chars {chars : List Char}
    (h : (chars.map Char.toNat).all CodePoint.isAlphanumeric = true)
    (husable : ((chars.map Char.toNat).head?.any CodePoint.isLetter &&
      !takenSpelling.texts.contains (chars.map Char.toNat)) = true) :
    IsClassName (Text.ofString (String.ofList chars)) := by
  have halphanumeric : ∀ c ∈ Text.ofString (String.ofList chars),
      CodePoint.isAlphanumeric c = true :=
    Text.of_chars (P := fun name => ∀ c ∈ name, CodePoint.isAlphanumeric c = true)
      (List.all_eq_true.1 h)
  exact isClassName_iff.2 ⟨isUsable_of_chars husable, halphanumeric⟩

theorem isClassName_standard : IsClassName standard :=
  isClassName_of_chars (by decide) (by decide)

/-- Whatever is given, a class name comes out if there is one to fall back on. -/
theorem isClassName_ofText {fallback : Text} (h : IsClassName fallback) (given : Text) :
    IsClassName (ofText given fallback) := by
  obtain ⟨husable, halphanumeric⟩ := isClassName_iff.1 h
  exact isClassName_iff.2 ⟨isUsable_ofText husable, mem_ofText halphanumeric⟩

/-- A class name is taken as it is. -/
theorem IsClassName.ofText_eq_self {name : Text} (h : IsClassName name) (fallback : Text) :
    ofText name fallback = name := by
  obtain ⟨husable, halphanumeric⟩ := isClassName_iff.1 h
  have hcleaned : cleaned name = name := List.filter_eq_self.2 halphanumeric
  rw [ofText, hcleaned, if_pos husable]

theorem IsClassName.encode_eq {name : Text} (h : IsClassName name) :
    DartLiteral.encode name = DartLiteral.quote :: (name ++ [DartLiteral.quote]) := by
  rw [DartLiteral.encode, escape_of_isAlphanumeric h.alphanumeric]
  simp [Text.concat]

end PageName

namespace Generator

open PageName

/-! ## Names of a generator -/

theorem isUsable_pageName {g : Generator} (hname : isUsable g.defaultPageName = true)
    (given : Option Text) : isUsable (g.pageName given) = true := isUsable_ofText hname

theorem pageName_eq_self (g : Generator) {name : Text} (h : IsClassName name) :
    g.pageName (some name) = name := by
  obtain ⟨c, rest, rfl, -⟩ := h.starts
  exact h.ofText_eq_self g.defaultPageName

/-- Without a name, or with an empty one, a page has the default name. -/
theorem pageName_default {g : Generator} (h : IsClassName g.defaultPageName) {given : Option Text}
    (hgiven : given.getD [] = []) : g.pageName given = g.defaultPageName := by
  match given with
  | none => exact h.ofText_eq_self g.defaultPageName
  | some [] => exact h.ofText_eq_self g.defaultPageName
  | some (c :: rest) => exact absurd hgiven (List.cons_ne_nil c rest)

section Build

variable {settings : Settings} {options : GeneratorOptions} {g : Generator}
  (h : build settings options = .ok g)

include h

theorem defaultPageName_of_build :
    g.defaultPageName =
      ofText (options.defaultPageName.getD settings.defaultPageName) standard := by
  obtain ⟨strategy, -, h⟩ := bind_eq_ok h
  cases h
  rfl

theorem isClassName_of_build : IsClassName g.defaultPageName := by
  rw [defaultPageName_of_build h]
  exact isClassName_ofText isClassName_standard _

theorem isUsable_of_build : isUsable g.defaultPageName = true :=
  (isClassName_iff.1 (isClassName_of_build h)).1

theorem alphanumeric_of_build : ∀ c ∈ g.defaultPageName, CodePoint.isAlphanumeric c = true :=
  (isClassName_of_build h).alphanumeric

end Build

/-- **Pages are named alike in all places.** The name of a page is a class name, whatever name is
given and whatever the default is: the given name if that is a class name; the default one if that
is and no name is given. Under this very name, which it does not change, the scaffold is put around
the body: it stands in the six places of the class and, between quotes, in the title. -/
theorem generate_isNamed {settings : Settings} {options : GeneratorOptions} {g : Generator}
    (hbuild : build settings options = .ok g) (given : Option Text) :
    let name := g.pageName given
    let default := options.defaultPageName.getD settings.defaultPageName
    IsClassName name ∧
      (∀ wanted, given = some wanted → IsClassName wanted → name = wanted) ∧
      (given.getD [] = [] → IsClassName default → name = default) ∧
      PageName.ofText name g.defaultPageName = name ∧
      DartLiteral.encode name = DartLiteral.quote :: (name ++ [DartLiteral.quote]) ∧
      (∀ body, Block.holes (Page.scaffold name body) =
        [(2, .name name), (3, .name name), (6, .name name), (6, .name name), (9, .name name),
          (9, .name name), (14, .literal name), (20, .source body)]) ∧
      ∀ detections, g.generate detections given =
        (g.body (Layout.ofRows (g.rows detections) g.columnGap)).map fun body =>
          { name := name
            source :=
              (Page.scaffold name (hangingIndent Page.bodyLevels (Page.content body))).source
            detectionCount := detections.length
            rowCount := (g.rows detections).length } := by
  intro name default
  have hdefault : IsClassName g.defaultPageName := isClassName_of_build hbuild
  have hname : IsClassName name := isClassName_ofText hdefault _
  have hkept : PageName.ofText name g.defaultPageName = name := hname.ofText_eq_self _
  refine ⟨hname, ?_, ?_, hkept, hname.encode_eq, Page.holes_scaffold name, ?_⟩
  · rintro wanted rfl hwanted
    exact pageName_eq_self g hwanted
  · intro hgiven hclass
    have hstays : g.defaultPageName = default := by
      rw [defaultPageName_of_build hbuild]
      exact hclass.ofText_eq_self standard
    exact (pageName_default hdefault hgiven).trans hstays
  · intro detections
    have hsource (body : Text) : Page.enclose name body g.defaultPageName =
        (Page.scaffold name (hangingIndent Page.bodyLevels (Page.content body))).source := by
      rw [Page.enclose, hkept]
      rfl
    rw [generate]
    cases g.body (Layout.ofRows (g.rows detections) g.columnGap) with
    | error fault => rfl
    | ok body =>
      rw [Except.map, ← hsource body]
      rfl

section Home

def homeName : Text := "HomePage"

def loginName : Text := "LoginPage"

/-- A generator that calls a page `HomePage` if it is not told otherwise. -/
def homeOptions : GeneratorOptions :=
  { rowStrategy := some RowStrategy.anchored.name, defaultPageName := some homeName }

theorem exists_build_homeOptions : ∃ g, build Settings.standard homeOptions = .ok g := by
  have hstrategy : homeOptions.rowStrategy.getD Settings.standard.rowStrategy =
      RowStrategy.anchored.name := rfl
  rw [build, Settings.strategyFor_map_named, hstrategy, RowStrategy.parse_name]
  exact ⟨_, rfl⟩

/-- Its pages with a name, with one that does not serve, and without one. -/
theorem generate_isNamed_home :
    ∃ g, build Settings.standard homeOptions = .ok g ∧
      IsClassName loginName ∧ g.pageName (some loginName) = loginName ∧
      IsClassName (g.pageName (some "9 lives")) ∧
      IsClassName homeName ∧ g.pageName none = homeName ∧
      ∃ page body, g.generate [] none = .ok page ∧ page.name = homeName ∧ page.source =
        (Page.scaffold homeName (hangingIndent Page.bodyLevels (Page.content body))).source := by
  obtain ⟨g, hbuild⟩ := exists_build_homeOptions
  have hlogin : IsClassName loginName := isClassName_of_chars (by decide) (by decide)
  have hhome : IsClassName homeName := isClassName_of_chars (by decide) (by decide)
  obtain ⟨-, hwanted, -⟩ := generate_isNamed hbuild (some loginName)
  obtain ⟨hreplaced, -⟩ := generate_isNamed hbuild (some "9 lives")
  obtain ⟨-, -, hdefault, -, -, -, hsource⟩ := generate_isNamed hbuild none
  have hnamed : g.pageName none = homeName := hdefault rfl hhome
  have hgap : Numeral.isWritable g.columnGap = true := by
    rw [columnGap_of_build hbuild]
    decide +kernel
  obtain ⟨page, hpage⟩ := (exists_generate_iff g [] none).2 ⟨.inl rfl, hgap⟩
  refine ⟨g, hbuild, hlogin, hwanted loginName rfl hlogin, hreplaced, hhome, hnamed, page, ?_⟩
  have hmade := hpage.symm.trans (hsource [])
  cases hbody : g.body (Layout.ofRows (g.rows []) g.columnGap) with
  | error fault =>
    rw [hbody] at hmade
    cases hmade
  | ok body =>
    rw [hbody, hnamed] at hmade
    cases hmade
    exact ⟨body, hpage, rfl, rfl⟩

end Home

end Generator

end Wireframe
