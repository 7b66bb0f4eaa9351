/-!
# Layout trees

A page is a column of rows. A tree has values of any type at its leaves, which stand for elements.
-/
namespace Wireframe

inductive Layout (α : Type) where
  | leaf (element : α)
  /-- Parts side by side, all of one width. -/
  | row (parts : List (Layout α))
  /-- Parts one above the other with a spacer of `gap` pixels after each; the last part has one
  only if `trailingGap` holds. -/
  | column (parts : List (Layout α)) (gap : Int) (trailingGap : Bool)

namespace Layout

variable {α : Type}

/-- A row of one element is that element. -/
def ofRow : List α → Layout α
  | [a] => leaf a
  | elements => row (elements.map leaf)

/-- The column of the rows that are not empty. -/
def ofRows (rows : List (List α)) (gap : Int) : Layout α :=
  column ((rows.filter fun row => !row.isEmpty).map ofRow) gap true

mutual

/-- The elements of a tree from first to last. -/
def leaves : Layout α → List α
  | leaf a => [a]
  | row parts => leavesOfAll parts
  | column parts _ _ => leavesOfAll parts

def leavesOfAll : List (Layout α) → List α
  | [] => []
  | part :: rest => leaves part ++ leavesOfAll rest

end

end Layout

end Wireframe
