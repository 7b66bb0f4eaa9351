import Wireframe.Number.Decimal
import Wireframe.Table
import Wireframe.Text.Quoted

/-!
# JSON values

Whole numbers are exact and apart from floating-point ones; an object is the table of its
members. `shown` is how a message shows a value, and it shows any: that an interpreter writes no
whole number of more than `Numeral.digitLimit` digits and follows no value beyond its limit of calls
is left out.
-/
namespace Wireframe

inductive Json where
  | null
  | bool (b : Bool)
  | int (n : Int)
  | float (x : Binary64)
  | string (t : Text)
  | array (items : List Json)
  | object (members : List (Text × Json))

namespace Json

/-- What holds other values. -/
inductive Holder where
  | array
  | object
  deriving DecidableEq

def Holder.name : Holder → Text
  | array => "array"
  | object => "object"

/-- The member of an object; `none` for other values and where it is missing. -/
def member? (name : Text) : Json → Option Json
  | object members => Table.get? members name
  | _ => none

mutual

/-- How a message shows a value, of any length and depth: texts quoted, lists and objects in their
brackets. -/
def shown : Json → Text
  | null => "None"
  | bool true => "True"
  | bool false => "False"
  | int n => .ofInt n
  | float x => x.shortestText
  | string t => t.quoted
  | array items => .concat ["[", shownItems items, "]"]
  | object members => .concat ["\x7b", shownMembers members, "\x7d"]

def shownItems : List Json → Text
  | [] => []
  | [v] => shown v
  | v :: rest => .concat [shown v, ", ", shownItems rest]

def shownMembers : List (Text × Json) → Text
  | [] => []
  | [(name, v)] => .concat [name.quoted, ": ", shown v]
  | (name, v) :: rest => .concat [name.quoted, ": ", shown v, ", ", shownMembers rest]

end

/-- How a message gives a value in running text: a text stands as it is. -/
def plain : Json → Text
  | string t => t
  | v => v.shown

end Json

end Wireframe
