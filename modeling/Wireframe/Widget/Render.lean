import Wireframe.Dart.Indent
import Wireframe.Layout.Tree
import Wireframe.Widget.Size
import Wireframe.Widget.Template

/-!
# Rendering

The widget source of an element, and of a layout tree whose leaves can be rendered. Parts without
source leave no trace: a row of such parts has no source itself, while a column always has.

Trees are rendered here however deep they are, and with gaps of any length. An interpreter has a
limit to its calls and to the digits of a number that it writes; the second counts for pages, whose
gap is a setting, and is looked at where they are made.
-/
namespace Wireframe

/-- The widget of one element: its source and the size in pixels that it was made for. -/
structure Fragment where
  code : Text
  width : Nat
  height : Nat
  deriving DecidableEq

namespace Fragment

def isEmpty (f : Fragment) : Bool := f.code.isEmpty

end Fragment

namespace Canvas

/-- The widget of a detection. -/
def fragment (canvas : Canvas) (d : Detection) : Except Fault Fragment :=
  (canvas.extent d.box).map fun (width, height) =>
    ⟨Widget.source ⟨d.caption, width, height⟩ d.kind, width, height⟩

end Canvas

namespace Layout

open Dart

/-! ## Parts that have source -/

/-- One of the equally wide parts of a row. -/
def expandedPart (code : Text) : Text :=
  .concat ["Expanded(\n", indent 1 (.concat ["child: ", code]), ",\n)"]

/-- The source of a row of parts; nothing where there are none. -/
def rowSource (parts : List Text) : Text :=
  if parts.isEmpty then []
  else .concat ["Row(\n  mainAxisAlignment: MainAxisAlignment.spaceBetween,\n  children: [\n",
    listEntries 2 (parts.map expandedPart), "\n  ],\n)"]

/-- A spacer of `gap` pixels. -/
def spacer (gap : Int) : Text := .concat ["const SizedBox(height: ", .ofInt gap, ")"]

/-- The parts with a spacer after each, after the last one only if `trailingGap` holds. -/
def spaced (spacer : Text) (trailingGap : Bool) : List Text → List Text
  | [] => []
  | [part] => if trailingGap then [part, spacer] else [part]
  | part :: rest => part :: spacer :: spaced spacer trailingGap rest

/-- The source of a column of parts. -/
def columnSource (gap : Int) (trailingGap : Bool) (parts : List Text) : Text :=
  let opening : Text := "Column(\n  crossAxisAlignment: CrossAxisAlignment.stretch,\n  children: ["
  if parts.isEmpty then .concat [opening, "],\n)"]
  else .concat [opening, "\n", listEntries 2 (spaced (spacer gap) trailingGap parts), "\n  ],\n)"]

/-! ## Trees -/

variable {α ε : Type} (leafSource : α → Except ε Text)

mutual

/-- The source of a tree. Leaves are rendered from first to last, and the first fault counts. -/
def render : Layout α → Except ε Text
  | leaf a => leafSource a
  | row parts => do return rowSource ((← renderAll parts).filter (!·.isEmpty))
  | column parts gap trailingGap => do
    return columnSource gap trailingGap ((← renderAll parts).filter (!·.isEmpty))

def renderAll : List (Layout α) → Except ε (List Text)
  | [] => return []
  | part :: rest => do
    let code ← render part
    let codes ← renderAll rest
    return code :: codes

end

end Layout

/-! ## Trees of elements and of what is none -/

/-- What stands at a leaf of a tree that was not made by the layout: an element, or a stray value of
any type at all. -/
inductive Leaf (σ : Type) where
  | element (d : Detection)
  | stray (value : σ)

namespace Canvas

/-- The source of a leaf; a stray value has none, and the fault says how it is `shown`. -/
def leafSource {σ : Type} (shown : σ → Text) (canvas : Canvas) : Leaf σ → Except Fault Text
  | .element d => (canvas.fragment d).map (·.code)
  | .stray value => .error (.strayNode (shown value))

/-- The source of a tree that may hold stray values. -/
def renderAny {σ : Type} (shown : σ → Text) (canvas : Canvas) (tree : Layout (Leaf σ)) :
    Except Fault Text :=
  tree.render (canvas.leafSource shown)

/-- The source of a tree of elements. -/
def render (canvas : Canvas) (tree : Layout Detection) : Except Fault Text :=
  tree.render fun d => (canvas.fragment d).map (·.code)

end Canvas

end Wireframe
