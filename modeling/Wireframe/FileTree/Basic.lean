import Wireframe.Text.Utf8

/-!
# File trees

A tree of directories and files, seen from one of its directories. What is there is listed by
location; the root is a directory and is not listed. There are no links and no devices in it, nobody
is denied anything, and there is always room for more.

Main statement: `node?_put`, what stands where after something was put somewhere.
-/
namespace Wireframe

/-- A place in a tree: the names from the root down to it, as they are read. -/
abbrev Location := List Text

/-- What can stand at a location. -/
inductive Node where
  | file (content : Octets)
  | directory
  deriving DecidableEq

structure FileTree where
  entries : List (Location × Node)
  /-- The directory that relative paths start from. -/
  here : Location
  deriving DecidableEq

namespace FileTree

/-- A tree with nothing in it. -/
def empty : FileTree := ⟨[], []⟩

/-- What stands at a location. -/
def node? (t : FileTree) (l : Location) : Option Node :=
  if l = [] then some .directory else t.entries.lookup l

def isDirectory (t : FileTree) (l : Location) : Bool := t.node? l = some .directory

/-- The entries with a node at `l`: in the place of what stands there, or else at the end. -/
def putEntry (l : Location) (node : Node) : List (Location × Node) → List (Location × Node)
  | [] => [(l, node)]
  | (k, n) :: rest => if k = l then (k, node) :: rest else (k, n) :: putEntry l node rest

/-- Puts a node at a location; the root stays as it is. -/
def put (t : FileTree) (l : Location) (node : Node) : FileTree :=
  if l = [] then t else { t with entries := putEntry l node t.entries }

/-! ## Listing -/

def slash : Nat := 0x2F

/-- A location as a path from the root. -/
def pathOf (l : Location) : Text := .join [slash] l

/-- The name that leads up. -/
def upward : Text := ".."

/-- The names that lead from the first location to the second: up, and down again. -/
def namesFrom : Location → Location → List Text
  | a :: here, b :: l =>
    if a = b then namesFrom here l else List.replicate (here.length + 1) upward ++ b :: l
  | here, l => List.replicate here.length upward ++ l

/-- The path that leads to a location; a dot is the path to where the tree is seen from. -/
def pathTo (t : FileTree) (l : Location) : Text :=
  if l = t.here then "." else pathOf (namesFrom t.here l)

/-- Whether a location lies below where the tree is seen from. -/
def isBelow (t : FileTree) (l : Location) : Bool := t.here.isPrefixOf l && l ≠ t.here

/-- What stands below where the tree is seen from, with its paths and in their order. -/
def sorted (t : FileTree) : List (Text × Node) :=
  let below := t.entries.filter fun (l, _) => t.isBelow l
  (below.map fun (l, node) => (t.pathTo l, node)).mergeSort fun a b => Text.le a.1 b.1

/-- The paths of all that stands there, in order; those of directories end in a slash. -/
def listing (t : FileTree) : List Text :=
  t.sorted.map fun (path, node) => match node with
    | .file _ => path
    | .directory => path ++ [slash]

/-! ## Lemmas -/

theorem lookup_putEntry (l : Location) (node : Node) (entries : List (Location × Node))
    (k : Location) :
    (putEntry l node entries).lookup k = if k = l then some node else entries.lookup k := by
  induction entries with
  | nil =>
    by_cases h : k = l
    · simp [putEntry, h]
    · simp [putEntry, List.lookup_cons, h, beq_eq_false_iff_ne.2 h]
  | cons entry rest ih =>
    obtain ⟨k', n⟩ := entry
    simp only [putEntry]
    split
    · subst_vars
      by_cases h : k = k'
      · simp [h]
      · simp [List.lookup_cons, h, beq_eq_false_iff_ne.2 h]
    · simp only [List.lookup_cons, ih]
      by_cases h : k = k'
      · subst_vars; simp_all
      · simp [beq_eq_false_iff_ne.2 h]

theorem node?_put (t : FileTree) {l : Location} (node : Node) (hl : l ≠ []) (k : Location) :
    (t.put l node).node? k = if k = l then some node else t.node? k := by
  unfold put node?
  rw [if_neg hl]
  by_cases hk : k = []
  · subst hk; simp [Ne.symm hl]
  · simp only [if_neg hk]; exact lookup_putEntry ..

theorem here_put (t : FileTree) (l : Location) (node : Node) : (t.put l node).here = t.here := by
  unfold put
  split <;> rfl

end FileTree

end Wireframe
