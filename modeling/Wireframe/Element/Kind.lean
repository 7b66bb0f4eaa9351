import Wireframe.Text.Blank
import Wireframe.Text.Lowercase

/-!
# Kinds of elements

The closed set of elements that a drawing can hold, with their names and how a name is recognised.
-/
namespace Wireframe

inductive Kind where
  | button
  | textField
  | text
  | container
  | image
  | icon
  | checkbox
  | switch
  | drawer
  | modal
  | pageIndicator
  | statusBar
  | unknown
  deriving DecidableEq, Repr

namespace Kind

def all : List Kind :=
  [button, textField, text, container, image, icon, checkbox, switch, drawer, modal,
    pageIndicator, statusBar, unknown]

theorem mem_all (k : Kind) : k ∈ all := by cases k <;> decide

/-- The words of the name, in lower case. -/
def words : Kind → List Text
  | button => ["button"]
  | textField => ["text", "field"]
  | text => ["text"]
  | container => ["container"]
  | image => ["image"]
  | icon => ["icon"]
  | checkbox => ["checkbox"]
  | switch => ["switch"]
  | drawer => ["drawer"]
  | modal => ["modal"]
  | pageIndicator => ["page", "indicator"]
  | statusBar => ["status", "bar"]
  | unknown => ["unknown"]

/-- The name in documents: its words joined by underscores. -/
def name (k : Kind) : Text := Text.join "_" k.words

/-- The name in upper case, as messages about the kinds themselves give it. -/
def constantName (k : Kind) : Text := k.name.toAsciiUpper

/-- The name as people read it. -/
def phrase (k : Kind) : Text := Text.join " " k.words

/-- The name as a title, every word with a capital. -/
def title (k : Kind) : Text :=
  Text.join " " <| k.words.map fun
    | [] => []
    | c :: rest => CodePoint.toAsciiUpper c :: rest

/-- A name as it is compared: blanks at the ends and case do not count, and a space or a hyphen
stands for an underscore. -/
def nameKey (given : Text) : Text :=
  (given.strip.lower.replace 0x2D 0x5F).replace 0x20 0x5F

/-- The kind that a name means. -/
def ofName? (given : Text) : Option Kind := all.find? fun k => k.name = nameKey given

theorem name_injective {a b : Kind} (h : a.name = b.name) : a = b := by
  revert h; cases a <;> cases b <;> decide

end Kind

end Wireframe
