import Mathlib.Data.List.Forall2
import Wireframe.Proofs.Dart.Display
import Wireframe.Proofs.Page.Confinement
import Wireframe.Proofs.Page.Existence
import Wireframe.Proofs.Page.Naming

/-!
# Fidelity of shown texts

The literals of a page are the library, the title and one for each text that a detection shows, in
reading order (`Generator.literals_of_generate_eq_ok`). A literal of the last kind stands for its
text exactly if the text is on one line, while in a preview every literal does: the widgets of a
preview are not indented.
-/
namespace Wireframe

open Dart DartLiteral

namespace Generator

/-! ## Literals of pages -/

/-- How far the widgets of a row are indented in a page. -/
def levels (row : List Detection) : Nat := Page.bodyLevels + (2 + Layout.partLevels row)

theorem levels_pos (row : List Detection) : 0 < levels row :=
  Nat.lt_of_lt_of_le (by decide : 0 < Page.bodyLevels) (Nat.le_add_right _ _)

section Rows

variable {canvas : Canvas} {rows : List (List Detection)} {gap : Int} {body : Text}
  (h : canvas.render (Layout.ofRows rows gap) = .ok body)

include h

theorem literals_of_render_rows :
    literals body = rows.flatMap fun row => (row.flatMap fun d => d.shownTexts.map escape).map
      (indentBody (2 + Layout.partLevels row)) := by
  obtain ⟨hleaves, hsource⟩ := Layout.render_eq_ok_iff.1 h
  have hleaf (d : Detection) :
      Sealed (((canvas.fragment d).map (·.code)).toOption.getD []) := by
    cases hd : canvas.fragment d with
    | error fault => exact .nil
    | ok fragment => exact (Canvas.fragment_eq_ok hd).1.toSealed
  have hliterals : ∀ row ∈ rows, ∀ d ∈ row,
      literals (((canvas.fragment d).map (·.code)).toOption.getD []) =
        d.shownTexts.map escape := by
    intro row hrow d hd
    obtain ⟨code, hcode⟩ := hleaves d (Layout.mem_leaves_ofRows hrow hd)
    cases hfragment : canvas.fragment d with
    | error fault => rw [hfragment] at hcode; cases hcode
    | ok fragment => exact (Canvas.fragment_eq_ok hfragment).2
  rw [hsource, Layout.literals_ofRows hleaf]
  refine List.flatMap_congr fun row hrow => ?_
  rw [List.flatMap_congr (hliterals row hrow)]

/-- A column of rows is never empty, and in a page only its first line stays where it is. -/
theorem literals_hanging_rows :
    literals (hangingIndent Page.bodyLevels (Page.content body)) =
      (literals body).map (indentBody Page.bodyLevels) := by
  have hbody := Canvas.wellFormed_of_render_eq_ok h
  obtain ⟨-, hsource⟩ := Layout.render_eq_ok_iff.1 h
  obtain ⟨first, rest, hfirst, hnot, hline⟩ := Layout.exists_columnSource_line gap true _
  have hlines : body = first ++ CodePoint.lineFeed :: rest := hsource.trans hline
  have hne : body ≠ [] := by
    rw [hlines]
    exact List.append_ne_nil_of_right_ne_nil first (List.cons_ne_nil _ rest)
  have hcontent : Page.content body = body := by
    rw [Page.content, List.isEmpty_eq_false_iff.2 hne, if_neg Bool.false_ne_true]
  rw [hcontent]
  rw [hlines] at hbody ⊢
  exact literals_hangingIndent Page.bodyLevels hfirst hnot hbody.toSealed

theorem literals_body :
    literals (hangingIndent Page.bodyLevels (Page.content body)) =
      rows.flatMap fun row => (row.flatMap Detection.shownTexts).map
        fun text => indentBody (levels row) (escape text) := by
  rw [literals_hanging_rows h, literals_of_render_rows h, List.map_flatMap]
  refine List.flatMap_congr fun row _ => ?_
  rw [← List.map_flatMap, List.map_map, List.map_map]
  exact List.map_congr_left fun text _ => indentBody_indentBody _ _ (escape text)

end Rows

theorem literals_of_generate_eq_ok {g : Generator}
    (hname : ∀ c ∈ g.defaultPageName, CodePoint.isAlphanumeric c = true)
    {detections : List Detection} {given : Option Text} {page : Page}
    (h : g.generate detections given = .ok page) :
    literals page.source = Page.library :: page.name ::
      (g.rows detections).flatMap fun row => (row.flatMap Detection.shownTexts).map
        fun text => indentBody (levels row) (escape text) := by
  obtain ⟨body, hbody, -, rfl⟩ := generate_eq_ok_iff.1 h
  have hsource := Page.literals_enclose (g.pageName given) hname
    (Canvas.wellFormed_of_render_eq_ok hbody)
  have hkept : PageName.ofText (g.pageName given) g.defaultPageName = g.pageName given :=
    PageName.ofText_ofText hname _
  rw [literals_body hbody, hkept] at hsource
  exact hsource

/-! ## Literals of previews -/

theorem literals_of_mapM_fragment {canvas : Canvas} {detections : List Detection}
    {fragments : List Fragment} (h : detections.mapM canvas.fragment = .ok fragments) :
    (∀ f ∈ fragments, Sealed f.code) ∧
      fragments.flatMap (fun f => literals f.code) =
        (detections.flatMap Detection.shownTexts).map escape := by
  induction detections generalizing fragments with
  | nil =>
    cases h
    exact ⟨fun f hf => absurd hf List.not_mem_nil, rfl⟩
  | cons d detections ih =>
    rw [List.mapM_cons] at h
    obtain ⟨f, hf, h⟩ := bind_eq_ok h
    obtain ⟨rest, hrest, h⟩ := bind_eq_ok h
    cases h
    obtain ⟨hsealed, hliterals⟩ := ih hrest
    obtain ⟨hwellFormed, hcode⟩ := Canvas.fragment_eq_ok hf
    refine ⟨List.forall_mem_cons.2 ⟨hwellFormed.toSealed, hsealed⟩, ?_⟩
    rw [List.flatMap_cons, hcode, hliterals, List.flatMap_cons, List.map_append]

theorem literals_of_preview_eq_ok {g : Generator} {detections : List Detection}
    {limit : Option Int} {source : Text} (h : g.preview detections limit = .ok source) :
    literals source = ((detections.take (limit.getD g.previewLimit).toNat).flatMap
      Detection.shownTexts).map escape := by
  obtain ⟨fragments, hfragments, h⟩ := bind_eq_ok h
  cases h
  obtain ⟨hsealed, hliterals⟩ := literals_of_mapM_fragment hfragments
  rw [literals_join (fun t ht => ?_) (by decide), List.flatMap_map, Layout.flatMap_filter,
    hliterals]
  · intro f _ hf
    rw [Bool.not_eq_false', Fragment.isEmpty, List.isEmpty_iff] at hf
    rw [hf]
    rfl
  · obtain ⟨f, hf, rfl⟩ := List.mem_map.1 ht
    exact hsealed f (List.mem_of_mem_filter hf)

/-! ## What literals stand for -/

theorem decode_indented_iff {n : Nat} (hn : 0 < n) (text : Text) :
    (decode (indentBody n (escape text)) = some text ↔ text.isOneLine = true) ∧
      (indentBody n (escape text) = escape text ↔ text.isOneLine = true) := by
  have hdecode : decode (indentBody n (escape text)) = some text ↔ text.isOneLine = true := by
    rw [decode_indentBody_escape, Option.some.injEq, displayed_eq_self_iff n hn]
  refine ⟨hdecode, fun h => ?_, fun h => ?_⟩
  · rw [← hdecode, h, decode_escape]
  · rw [indentBody_escape, displayed_of_isOneLine n h]

theorem forall₂_flatMap {α : Type} {R : Text → Text → Prop} {rows : List (List α)}
    {shown : α → List Text} {body : List α → Text → Text} (h : ∀ row text, R text (body row text)) :
    List.Forall₂ R (rows.flatten.flatMap shown)
      (rows.flatMap fun row => (row.flatMap shown).map (body row)) := by
  induction rows with
  | nil => exact .nil
  | cons row rows ih =>
    rw [List.flatten_cons, List.flatMap_append, List.flatMap_cons]
    refine List.rel_append (List.forall₂_map_right_iff.2 (List.forall₂_same.2 ?_)) ih
    exact fun text _ => h row text

/-- **Which literals stand for their texts.** A page of a generator has one literal for each text
that one of the detections shows, in reading order, besides the library and the title. It stands
for the text, and is the literal that a preview has for it, exactly if the text is on one line. -/
theorem generate_shows_iff {settings : Settings} {options : GeneratorOptions} {g : Generator}
    (hbuild : build settings options = .ok g) (detections : List Detection) (given : Option Text)
    {page : Page} (hpage : g.generate detections given = .ok page) :
    (∃ bodies, literals page.source = Page.library :: page.name :: bodies ∧
      List.Forall₂ (fun text body => (decode body = some text ↔ text.isOneLine = true) ∧
          (body = escape text ↔ text.isOneLine = true))
        ((g.rows detections).flatten.flatMap Detection.shownTexts) bodies) ∧
    (g.rows detections).flatten.Perm detections ∧
    ∀ limit source, g.preview detections limit = .ok source →
      literals source = ((detections.take (limit.getD g.previewLimit).toNat).flatMap
        Detection.shownTexts).map escape := by
  refine ⟨⟨_, literals_of_generate_eq_ok (alphanumeric_of_build hbuild) hpage, ?_⟩, ?_, ?_⟩
  · exact forall₂_flatMap fun row text => decode_indented_iff (levels_pos row) text
  · exact readingOrder_perm id g.rowThreshold g.rowStrategy detections
  · exact fun limit source hpreview => literals_of_preview_eq_ok hpreview

section Broken

/-- An element whose label goes on in another line, by a line end that is not escaped. -/
def brokenLabel : Detection :=
  ⟨.text, ⟨.zero, .zero, .one, .one⟩, .one, some [0x61, 0x0B, 0x62]⟩

def unitOptions : GeneratorOptions :=
  ⟨some .one, some .one, some .one, some RowStrategy.anchored.name, some 16, some 5, none⟩

def unitGenerator : Generator :=
  ⟨.ofSides .one .one, .one, .anchored, 16, 5, PageName.ofText PageName.standard PageName.standard⟩

theorem build_unitOptions : build Settings.standard unitOptions = .ok unitGenerator := by
  have hstrategy : unitOptions.rowStrategy.getD Settings.standard.rowStrategy =
      RowStrategy.anchored.name := rfl
  rw [build, Settings.strategyFor_map_named, hstrategy, RowStrategy.parse_name]
  rfl

theorem exists_generate_unitGenerator (detections : List Detection) (given : Option Text) :
    ∃ page, unitGenerator.generate detections given = .ok page :=
  (exists_generate_iff unitGenerator detections given).2 ⟨.inr ⟨rfl, rfl⟩, by decide +kernel⟩

/-- What a page shows of it. -/
theorem generate_shows_brokenLabel :
    ∃ page bodies, unitGenerator.generate [brokenLabel] none = .ok page ∧
      literals page.source = Page.library :: page.name :: bodies ∧
      List.Forall₂ (fun text body => decode body = some text ↔ text.isOneLine = true)
        ((unitGenerator.rows [brokenLabel]).flatten.flatMap Detection.shownTexts) bodies := by
  obtain ⟨page, hpage⟩ := exists_generate_unitGenerator [brokenLabel] none
  obtain ⟨⟨bodies, hbodies, hshows⟩, -⟩ :=
    generate_shows_iff build_unitOptions [brokenLabel] none hpage
  exact ⟨page, bodies, hpage, hbodies, hshows.imp fun _ _ h => h.1⟩

/-- Its literal does not stand for its text but for one with fourteen more spaces. -/
theorem generate_breaks_brokenLabel :
    build Settings.standard unitOptions = .ok unitGenerator ∧
    ∃ page body text, unitGenerator.generate [brokenLabel] none = .ok page ∧
      literals page.source = [Page.library, page.name, body] ∧
      brokenLabel.shownTexts = [text] ∧ decode body ≠ some text ∧
      text = [0x61, 0x0B, 0x62] ∧
      decode body = some ([0x61, 0x0B] ++ List.replicate 14 CodePoint.space ++ [0x62]) := by
  obtain ⟨page, hpage⟩ := exists_generate_unitGenerator [brokenLabel] none
  have hrows : unitGenerator.rows [brokenLabel] = [[brokenLabel]] := by
    rw [rows, groupRows_eq, List.mergeSort_singleton]
    exact congrArg (fun row => [row]) (List.mergeSort_singleton _)
  have htexts : brokenLabel.shownTexts = [[0x61, 0x0B, 0x62]] := by decide
  have hliterals := literals_of_generate_eq_ok (alphanumeric_of_build build_unitOptions) hpage
  rw [hrows, List.flatMap_singleton, List.flatMap_singleton, htexts] at hliterals
  have hdecode : decode (indentBody (levels [brokenLabel]) (escape [0x61, 0x0B, 0x62])) =
      some ([0x61, 0x0B] ++ List.replicate 14 CodePoint.space ++ [0x62]) := by decide
  refine ⟨build_unitOptions, page, _, _, hpage, hliterals, htexts, ?_, rfl, hdecode⟩
  rw [hdecode]
  decide

end Broken

end Generator

end Wireframe
