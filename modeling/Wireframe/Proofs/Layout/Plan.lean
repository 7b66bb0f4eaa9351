import Wireframe.Proofs.Dart.FlushLeft
import Wireframe.Proofs.Layout.Source

/-!
# What a tree is rendered as

The plan of a tree says what its source reads flush left: source of the tree itself and, in between,
the widgets of its elements. Rows and columns are described by their parts that have a plan. A row
has an entry for each of them and no plan where there are none. A column always has a plan, and
spacers stand between its parts.

Rendering keeps to the plan (`yields_source`).
-/
namespace Wireframe

open Dart

/-! ## Plans -/

/-- A stretch of what a tree is rendered as. -/
inductive Segment (α : Type) where
  /-- Source of the tree itself. -/
  | code (source : Text)
  /-- The widget of an element. -/
  | widget (element : α)

abbrev Plan (α : Type) := List (Segment α)

namespace Plan

variable {α : Type}

/-- The entries of a list, on lines of their own and each followed by a comma. -/
def listed : List (Plan α) → Plan α
  | [] => []
  | [entry] => entry ++ [.code ","]
  | entry :: rest => entry ++ .code ",\n" :: listed rest

def expanded (part : Plan α) : Plan α := .code "Expanded(\nchild: " :: (part ++ [.code ",\n)"])

/-- A row with an entry for every part; nothing where there are none. -/
def row (parts : List (Plan α)) : Plan α :=
  if parts.isEmpty then []
  else .code "Row(\nmainAxisAlignment: MainAxisAlignment.spaceBetween,\nchildren: [\n" ::
    (listed (parts.map expanded) ++ [.code "\n],\n)"])

def spacer (gap : Int) : Plan α := [.code (.concat ["const SizedBox(height: ", .ofInt gap, ")"])]

/-- The parts with a spacer between neighbours, and one after the last if `trailingGap` holds. -/
def withSpacers (gap : Int) (trailingGap : Bool) (parts : List (Plan α)) : List (Plan α) :=
  parts.intersperse (spacer gap) ++ if trailingGap then [spacer gap] else []

def columnOpening : Text :=
  "Column(\ncrossAxisAlignment: CrossAxisAlignment.stretch,\nchildren: ["

/-- A column with an entry for every part and every spacer. -/
def column (gap : Int) (trailingGap : Bool) (parts : List (Plan α)) : Plan α :=
  if parts.isEmpty then [.code columnOpening, .code "],\n)"]
  else .code columnOpening :: .code "\n" ::
    (listed (withSpacers gap trailingGap parts) ++ [.code "\n],\n)"])

/-- What a plan reads when each element has its widget. -/
def text (widgetText : α → Text) (plan : Plan α) : Text :=
  plan.flatMap fun
    | .code source => source
    | .widget a => widgetText a

/-- The elements whose widgets stand in a plan, from first to last. -/
def elements (plan : Plan α) : List α :=
  plan.flatMap fun
    | .code _ => []
    | .widget a => [a]

end Plan

namespace Layout

variable {α : Type}

mutual

/-- The plan of a tree in which only some elements have a widget. -/
def plan (shows : α → Bool) : Layout α → Plan α
  | leaf a => if shows a then [.widget a] else []
  | row parts => Plan.row ((planAll shows parts).filter (!·.isEmpty))
  | column parts gap trailingGap =>
    Plan.column gap trailingGap ((planAll shows parts).filter (!·.isEmpty))

def planAll (shows : α → Bool) : List (Layout α) → List (Plan α)
  | [] => []
  | part :: rest => plan shows part :: planAll shows rest

end

end Layout

namespace Plan

variable {α : Type}

/-! ## Elements of a plan -/

@[simp] theorem elements_append (p q : Plan α) :
    (p ++ q).elements = p.elements ++ q.elements := List.flatMap_append

@[simp] theorem elements_code_cons (source : Text) (p : Plan α) :
    Plan.elements (.code source :: p) = p.elements := rfl

@[simp] theorem elements_nil : Plan.elements ([] : Plan α) = [] := rfl

theorem listed_cons_cons (entry next : Plan α) (rest : List (Plan α)) :
    listed (entry :: next :: rest) = entry ++ .code ",\n" :: listed (next :: rest) := rfl

theorem elements_listed (entries : List (Plan α)) :
    (listed entries).elements = entries.flatMap elements := by
  induction entries with
  | nil => rfl
  | cons entry rest ih =>
    cases rest with
    | nil => simp [listed]
    | cons next rest => simp [listed_cons_cons, ih]

theorem elements_row (parts : List (Plan α)) : (row parts).elements = parts.flatMap elements := by
  unfold row
  cases parts with
  | nil => rfl
  | cons part rest => simp [elements_listed, expanded, List.flatMap_map]

@[simp] theorem elements_spacer (gap : Int) : (spacer gap : Plan α).elements = [] := rfl

theorem flatMap_elements_withSpacers (gap : Int) (trailingGap : Bool) (parts : List (Plan α)) :
    (withSpacers gap trailingGap parts).flatMap elements = parts.flatMap elements := by
  have hinner : (parts.intersperse (spacer gap)).flatMap elements = parts.flatMap elements := by
    induction parts with
    | nil => rfl
    | cons part rest ih =>
      cases rest with
      | nil => rfl
      | cons next rest => simp [ih]
  unfold withSpacers
  cases trailingGap <;> simp [hinner]

theorem elements_column (gap : Int) (trailingGap : Bool) (parts : List (Plan α)) :
    (column gap trailingGap parts).elements = parts.flatMap elements := by
  unfold column
  cases parts with
  | nil => rfl
  | cons part rest =>
    have hspacers := flatMap_elements_withSpacers gap trailingGap (part :: rest)
    simp [elements_listed, hspacers]

end Plan

namespace Layout

variable {α : Type} (shows : α → Bool)

theorem flatMap_elements_filter (plans : List (Plan α)) :
    (plans.filter (!·.isEmpty)).flatMap Plan.elements = plans.flatMap Plan.elements :=
  flatMap_filter fun plan _ h => by
    rw [Bool.not_eq_false', List.isEmpty_iff] at h
    rw [h]
    rfl

mutual

/-- Every element that has a widget stands in the plan once, and in the order of the tree. -/
theorem elements_plan : ∀ t : Layout α, (t.plan shows).elements = t.leaves.filter shows
  | leaf a => by
    rw [plan, leaves]
    cases hshows : shows a <;> simp [hshows, Plan.elements]
  | row parts => by
    rw [plan, Plan.elements_row, flatMap_elements_filter, leaves, elements_planAll parts]
  | column parts gap trailingGap => by
    rw [plan, Plan.elements_column, flatMap_elements_filter, leaves, elements_planAll parts]

theorem elements_planAll : ∀ parts : List (Layout α),
    (planAll shows parts).flatMap Plan.elements = (leavesOfAll parts).filter shows
  | [] => rfl
  | part :: rest => by
    rw [planAll, List.flatMap_cons, leavesOfAll, List.filter_append, elements_plan part,
      elements_planAll rest]

end

end Layout

/-! ## Source that keeps to a plan -/

namespace Plan

variable {α : Type} (widgetText : α → Text)

theorem text_append (p q : Plan α) :
    (p ++ q).text widgetText = p.text widgetText ++ q.text widgetText := List.flatMap_append

theorem text_code_cons (source : Text) (p : Plan α) :
    Plan.text widgetText (.code source :: p) = source ++ p.text widgetText := rfl

theorem text_code (source : Text) : Plan.text widgetText [.code source] = source := by
  rw [text_code_cons]
  exact List.append_nil source

/-- Source that reads as its plan, flush left, and can stand after other source on a line. -/
structure Yields (plan : Plan α) (code : Text) : Prop where
  flush : flushLeft code = plan.text widgetText
  head : code.head? ≠ some CodePoint.space
  isEmpty_iff : plan.isEmpty = true ↔ code.isEmpty = true

variable {widgetText}

theorem Yields.nil : Plan.Yields widgetText [] [] :=
  ⟨rfl, fun h => (Option.some_ne_none _ h.symm), Iff.rfl⟩

/-- Source with a head is source of a plan with a head. -/
theorem Yields.of_cons {segment : Segment α} {plan : Plan α} {code : Text} {c : Nat}
    (flush : flushLeft code = Plan.text widgetText (segment :: plan)) (hhead : code.head? = some c)
    (hc : c ≠ CodePoint.space) : Plan.Yields widgetText (segment :: plan) code := by
  refine ⟨flush, ?_, ?_⟩
  · rw [hhead]
    exact fun h => hc (Option.some.inj h)
  · cases code with
    | nil => cases hhead
    | cons c rest => simp

/-- Parts without source are the parts without a plan. -/
theorem yields_filter {plans : List (Plan α)} {codes : List Text}
    (h : List.Forall₂ (Yields widgetText) plans codes) :
    List.Forall₂ (Yields widgetText) (plans.filter (!·.isEmpty)) (codes.filter (!·.isEmpty)) := by
  refine List.rel_filter ?_ h
  intro plan code hyields
  show (!plan.isEmpty) = true ↔ (!code.isEmpty) = true
  rw [Bool.eq_iff_iff.2 hyields.isEmpty_iff]

theorem Yields.flush_expanded {plan : Plan α} {code : Text} (h : plan.Yields widgetText code) :
    flushLeft (Layout.expandedPart code) = plan.expanded.text widgetText := by
  have hline : Layout.expandedOpening.getLast? = some CodePoint.lineFeed :=
    Text.of_chars (P := fun t => t.getLast? = some CodePoint.lineFeed) (by decide)
  have hhead : Layout.expandedClosing.head? ≠ some CodePoint.space :=
    Text.of_chars (P := fun t => t.head? ≠ some CodePoint.space) (by decide)
  have hopening : flushLeft Layout.expandedOpening = Text.ofString "Expanded(\n" :=
    flushLeft_of_chars (by decide)
  have hchild : flushLeft Layout.childOpening = Text.ofString "child: " :=
    flushLeft_of_chars (by decide)
  have hclosing : flushLeft Layout.expandedClosing = Text.ofString ",\n)" :=
    flushLeft_of_chars (by decide)
  rw [Layout.expandedPart_eq, flushLeft_between hline hhead, flushLeft_indent, List.append_nil,
    flushLeft_append _ h.head, h.flush, hopening, hchild, hclosing, expanded, text_code_cons,
    text_append, text_code]
  simp [Text.ofString]

theorem flush_listEntries (levels : Nat) {plans : List (Plan α)} {items : List Text}
    (h : List.Forall₂ (fun plan item => flushLeft item = plan.text widgetText) plans items) :
    flushLeft (listEntries levels items) = (listed plans).text widgetText := by
  induction h with
  | nil => rfl
  | cons hitem hrest ih =>
    cases hrest with
    | nil => rw [flushLeft_listEntries_singleton, hitem, listed, text_append, text_code]
    | cons hnext hrest =>
      rw [flushLeft_listEntries_cons, hitem, ih, listed_cons_cons, text_append, text_code_cons]

theorem flushLeft_listClosing : flushLeft Layout.listClosing = Text.ofString "\n],\n)" :=
  flushLeft_of_chars (by decide)

theorem head?_listClosing : Layout.listClosing.head? ≠ some CodePoint.space :=
  Text.of_chars (P := fun t => t.head? ≠ some CodePoint.space) (by decide)

theorem yields_row {plans : List (Plan α)} {codes : List Text}
    (h : List.Forall₂ (Yields widgetText) plans codes) :
    (row plans).Yields widgetText (Layout.rowSource codes) := by
  have hentries : List.Forall₂ (fun plan item => flushLeft item = plan.text widgetText)
      (plans.map expanded) (codes.map Layout.expandedPart) := by
    rw [List.forall₂_map_left_iff, List.forall₂_map_right_iff]
    exact h.imp fun _ _ => Yields.flush_expanded
  have hline : Layout.rowOpening.getLast? = some CodePoint.lineFeed :=
    Text.of_chars (P := fun t => t.getLast? = some CodePoint.lineFeed) (by decide)
  have hhead : Layout.rowOpening.head? = some 0x52 :=
    Text.of_chars (P := fun t => t.head? = some 0x52) (by decide)
  have hopening : flushLeft Layout.rowOpening =
      Text.ofString "Row(\nmainAxisAlignment: MainAxisAlignment.spaceBetween,\nchildren: [\n" :=
    flushLeft_of_chars (by decide)
  cases h with
  | nil => exact .nil
  | cons hpart hrest =>
    rw [Layout.rowSource_eq (List.cons_ne_nil _ _)]
    refine .of_cons ?_ (by rw [List.head?_append, hhead]; rfl) (by decide)
    rw [flushLeft_between hline head?_listClosing, flush_listEntries 2 hentries,
      flushLeft_listClosing, hopening, text_code_cons, text_append, text_code]

/-- The spacers of a column of source stand where those of its plan do. -/
theorem forall₂_withSpacers {R : Plan α → Text → Prop} {gap : Int}
    (hspacer : R (spacer gap) (Layout.spacer gap)) (trailingGap : Bool) {plans : List (Plan α)}
    {codes : List Text} (hne : plans ≠ []) (h : List.Forall₂ R plans codes) :
    List.Forall₂ R (withSpacers gap trailingGap plans)
      (Layout.spaced (Layout.spacer gap) trailingGap codes) := by
  induction h with
  | nil => exact absurd rfl hne
  | cons hpart hrest ih =>
    cases hrest with
    | nil =>
      cases trailingGap with
      | false => exact .cons hpart .nil
      | true => exact .cons hpart (.cons hspacer .nil)
    | cons hnext hrest => exact .cons hpart (.cons hspacer (ih (List.cons_ne_nil _ _)))

theorem flushLeft_spacer (gap : Int) :
    flushLeft (Layout.spacer gap) = (spacer gap).text widgetText := by
  have hopening : Layout.spacerOpening.all (fun c => !CodePoint.isLineEnd c) = true :=
    Text.of_chars (P := fun t => t.all (fun c => !CodePoint.isLineEnd c) = true) (by decide)
  have hhead : Layout.spacerOpening.head? = some 0x63 :=
    Text.of_chars (P := fun t => t.head? = some 0x63) (by decide)
  have hspacer : (spacer gap).text widgetText = Layout.spacer gap := text_code widgetText _
  rw [hspacer]
  refine flushLeft_eq_self ?_ ?_
  · rw [Layout.spacer_eq, List.head?_append, hhead]
    exact fun h => absurd (Option.some.inj h) (by decide)
  · intro c hc
    rw [Layout.spacer_eq, List.mem_append, List.mem_append] at hc
    rcases hc with hc | hc | hc
    · simpa using List.all_eq_true.1 hopening c hc
    · rcases mem_ofInt hc with rfl | hdigit
      · decide
      · simp [CodePoint.isDigit] at hdigit
        simp [CodePoint.isLineEnd, CodePoint.within]
        omega
    · rw [List.mem_singleton.1 (show c ∈ [0x29] from hc)]
      decide

theorem flushLeft_columnOpening : flushLeft Layout.columnOpening = columnOpening :=
  flushLeft_of_chars (by decide)

theorem head?_columnOpening : Layout.columnOpening.head? = some 0x43 :=
  Text.of_chars (P := fun t => t.head? = some 0x43) (by decide)

theorem yields_emptyColumn : Plan.Yields widgetText [.code columnOpening, .code "],\n)"]
    (Layout.columnOpening ++ Layout.columnClosing) := by
  have hclosing : flushLeft Layout.columnClosing = Text.ofString "],\n)" :=
    flushLeft_of_chars (by decide)
  have hhead : Layout.columnClosing.head? ≠ some CodePoint.space :=
    Text.of_chars (P := fun t => t.head? ≠ some CodePoint.space) (by decide)
  refine .of_cons (c := 0x43) ?_ ?_ (by decide)
  · rw [flushLeft_append _ hhead, flushLeft_columnOpening, hclosing, text_code_cons, text_code]
  · rw [List.head?_append, head?_columnOpening]
    rfl

theorem yields_column (gap : Int) (trailingGap : Bool) {plans : List (Plan α)}
    {codes : List Text} (h : List.Forall₂ (Yields widgetText) plans codes) :
    (column gap trailingGap plans).Yields widgetText
      (Layout.columnSource gap trailingGap codes) := by
  have hflush : List.Forall₂ (fun plan item => flushLeft item = plan.text widgetText) plans codes :=
    h.imp fun _ _ => Yields.flush
  have hlineFeed : flushLeft (Text.ofString "\n") = Text.ofString "\n" := rfl
  have hline : (Layout.columnOpening ++ "\n").getLast? = some CodePoint.lineFeed :=
    List.getLast?_concat
  cases h with
  | nil =>
    rw [Layout.columnSource_nil]
    exact yields_emptyColumn
  | cons hpart hrest =>
    have hentries := forall₂_withSpacers (flushLeft_spacer gap) trailingGap
      (List.cons_ne_nil _ _) hflush
    rw [Layout.columnSource_eq gap trailingGap (List.cons_ne_nil _ _)]
    refine .of_cons (c := 0x43) ?_ ?_ (by decide)
    · rw [flushLeft_between hline head?_listClosing, flushLeft_append _ (by decide),
        flushLeft_columnOpening, hlineFeed, flush_listEntries 2 hentries, flushLeft_listClosing,
        text_code_cons, text_code_cons, text_append, text_code, List.append_assoc]
    · rw [List.append_assoc, List.head?_append, head?_columnOpening]
      rfl

end Plan

namespace Layout

variable {α : Type} {shows : α → Bool} {leafText widgetText : α → Text}

mutual

/-- Rendering keeps to the plan. -/
theorem yields_source : ∀ t : Layout α,
    (∀ a ∈ t.leaves, ((leaf a).plan shows).Yields widgetText (leafText a)) →
      (t.plan shows).Yields widgetText (t.source leafText)
  | leaf a, h => h a (List.mem_singleton_self a)
  | row parts, h => Plan.yields_row (Plan.yields_filter (yields_sourceAll parts h))
  | column parts gap trailingGap, h =>
    Plan.yields_column gap trailingGap (Plan.yields_filter (yields_sourceAll parts h))

theorem yields_sourceAll : ∀ parts : List (Layout α),
    (∀ a ∈ leavesOfAll parts, ((leaf a).plan shows).Yields widgetText (leafText a)) →
      List.Forall₂ (Plan.Yields widgetText) (planAll shows parts) (sourceAll leafText parts)
  | [], _ => .nil
  | part :: rest, h => .cons (yields_source part fun a ha => h a (List.mem_append_left _ ha))
    (yields_sourceAll rest fun a ha => h a (List.mem_append_right _ ha))

end

end Layout

end Wireframe
