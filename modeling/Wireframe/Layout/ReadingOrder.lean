import Wireframe.Element.Detection

/-!
# Reading order

Elements are read from top to bottom. Those whose distance from a reference height stays below a
threshold share a row, and a row is read from left to right. The reading order is the rows one
after another.

Elements come as values of any type `α` with a view `d : α → Detection`, so that equal detections
can be told apart. Coordinates that are not finite count as zero here. Both sorts are stable.
-/
namespace Wireframe

/-! ## Strategies -/

/-- What the height of an element is compared with. -/
inductive RowStrategy where
  /-- The height of the element before it: a row may drift. -/
  | drifting
  /-- The height of the first element of the row. -/
  | anchored
  deriving DecidableEq, Repr

namespace RowStrategy

def name : RowStrategy → Text
  | drifting => "drifting"
  | anchored => "anchored"

/-- The strategy of a name; blanks around it and its case do not count. -/
def parse (given : Text) : Except Fault RowStrategy :=
  if given.strip.lower = drifting.name then .ok drifting
  else if given.strip.lower = anchored.name then .ok anchored
  else .error (.unknownStrategy given)

theorem parse_name (strategy : RowStrategy) : parse strategy.name = .ok strategy := by
  cases strategy with
  | drifting => rw [parse, if_pos (by decide)]
  | anchored => rw [parse, if_neg (by decide), if_pos (by decide)]

end RowStrategy

/-! ## Order of elements -/

/-- A number that is not finite counts as zero. -/
def Binary64.orZero (x : Binary64) : Binary64 := if x.isFinite then x else .zero

namespace Detection

def compareNumber (f : Detection → Binary64) : Detection → Detection → Ordering :=
  compareOn fun d => (f d).orZero.units

/-- What decides between elements at one place: height, width, the name of the kind, the label
and the confidence. -/
def compareTies : Detection → Detection → Ordering :=
  compareLex (compareNumber (·.box.height)) <|
  compareLex (compareNumber (·.box.width)) <|
  compareLex (compareOn (·.kind.name)) <|
  compareLex (compareOn (·.label.getD [])) (compareNumber (·.confidence))

/-- From top to bottom, at one height from left to right. -/
def compareVertical : Detection → Detection → Ordering :=
  compareLex (compareNumber (·.box.y)) (compareLex (compareNumber (·.box.x)) compareTies)

/-- From left to right, on one vertical line from top to bottom. -/
def compareHorizontal : Detection → Detection → Ordering :=
  compareLex (compareNumber (·.box.x)) (compareLex (compareNumber (·.box.y)) compareTies)

end Detection

/-! ## Rows -/

/-- Whether a height is close enough to a reference height to share its row. -/
def sharesRow (y reference threshold : Binary64) : Bool :=
  (y.orZero - reference.orZero).abs.lt threshold

section Rows

variable {α : Type} (d : α → Detection) (threshold : Binary64) (strategy : RowStrategy)

/-- Divides elements in vertical order into what belongs to the row with the given reference and
the rows after it. -/
def splitRow (reference : Binary64) : List α → List α × List (List α)
  | [] => ([], [])
  | a :: rest =>
    let y := (d a).box.y
    if sharesRow y reference threshold then
      let next := match strategy with
        | .drifting => y
        | .anchored => reference
      let (row, rows) := splitRow next rest
      (a :: row, rows)
    else
      let (row, rows) := splitRow y rest
      ([], (a :: row) :: rows)

/-- The rows of elements in vertical order; the first element opens a row. -/
def divideRows : List α → List (List α)
  | [] => []
  | a :: rest =>
    let (row, rows) := splitRow d threshold strategy (d a).box.y rest
    (a :: row) :: rows

/-- The rows of elements in any order, from top to bottom, each from left to right. -/
def groupRows (elements : List α) : List (List α) :=
  let sorted := elements.mergeSort fun a b => ((d a).compareVertical (d b)).isLE
  (divideRows d threshold strategy sorted).map fun row =>
    row.mergeSort fun a b => ((d a).compareHorizontal (d b)).isLE

/-- The elements in the order in which they are read. -/
def readingOrder (elements : List α) : List α := (groupRows d threshold strategy elements).flatten

end Rows

end Wireframe
