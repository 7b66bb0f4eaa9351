import Wireframe.Layout.Tree
import Wireframe.Settings.Basic

/-!
# Settings in force

The steps that lead to a page can be asked for one by one. What is not given for a step is taken
from the settings in force when it is done; what is given counts, whatever it is.
-/
namespace Wireframe

/-- How a strategy can be given. -/
inductive StrategyChoice where
  | named (given : Text)
  | exactly (strategy : RowStrategy)
  deriving DecidableEq

namespace Settings

variable (s : Settings)

/-- The strategy that is given, or that of the settings. -/
def strategyFor : Option StrategyChoice → Except Fault RowStrategy
  | none => RowStrategy.parse s.rowStrategy
  | some (.named given) => RowStrategy.parse given
  | some (.exactly strategy) => .ok strategy

/-- The canvas of the given sides, each of which the settings may provide. -/
def canvasFor (width height : Option Binary64) : Canvas where
  width := width <|> s.canvas.width
  height := height <|> s.canvas.height

theorem strategyFor_map_named (given : Option Text) :
    s.strategyFor (given.map .named) = RowStrategy.parse (given.getD s.rowStrategy) := by
  cases given <;> rfl

theorem canvasFor_none : s.canvasFor none none = s.canvas := by
  have hnone (side : Option Binary64) : (none <|> side) = side := by cases side <;> rfl
  rw [canvasFor]
  generalize s.canvas = canvas
  rw [hnone, hnone]

section Rows

variable {α : Type} (d : α → Detection) (threshold : Option Binary64)
  (strategy : Option StrategyChoice)

/-- The rows of elements in any order. -/
def rowsFor (elements : List α) : Except Fault (List (List α)) := do
  let strategy ← s.strategyFor strategy
  return groupRows d (threshold.getD s.rowThreshold) strategy elements

/-- The elements in the order in which they are read. -/
def readingOrderFor (elements : List α) : Except Fault (List α) :=
  (s.rowsFor d threshold strategy elements).map List.flatten

end Rows

/-- The column of rows with the given gap between them. -/
def layoutFor {α : Type} (rows : List (List α)) (gap : Option Int) : Layout α :=
  Layout.ofRows rows (gap.getD s.columnGap)

end Settings

end Wireframe
