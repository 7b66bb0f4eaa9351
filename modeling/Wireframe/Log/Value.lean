import Wireframe.Log.Format

/-!
# Values of fields

What a field of a message stands for, and how a field gets from a value to what is in it: to a part
by its name after a point, and to an item or a member in brackets.
-/
namespace Wireframe

namespace Log

/-- What a field of a message can stand for. -/
inductive Value where
  | json (v : Json)
  /-- The type of a value. -/
  | type (name : Text)
  /-- A day, as it is written where nothing else is said. -/
  | day (written : Text)

/-- A step from a value to something in it. -/
inductive Access where
  | part (name : Text)
  | item (index : Nat)
  | member (name : Text)
  deriving DecidableEq

namespace Value

/-- How a message shows a value. -/
def shown : Value → Text
  | json v => v.shown
  | type name => .concat ["<class '", name, "'>"]
  | day written => written

/-- How a message gives a value in running text. -/
def plain : Value → Text
  | json v => v.plain
  | v => v.shown

/-! ## Formats -/

/-- How the usual writing of a day is asked for. -/
def dayFormats : List Text := ["YYYY-MM-DD", "%Y-%m-%d"]

/-- A text with the day in place of its format; `skip` code points belong to one that was
replaced. -/
def writeDay (written : Text) : (skip : Nat) → Text → Text
  | _, [] => []
  | skip + 1, _ :: rest => writeDay written skip rest
  | 0, c :: rest => match dayFormats.find? (·.isPrefixOf (c :: rest)) with
    | some format => written ++ writeDay written (format.length - 1) rest
    | none => c :: writeDay written 0 rest

/-- A value in the format that a text gives. -/
def formatted (given : Text) : Value → Except FillFault Text
  | json v => Log.formatted given v
  | type name => if given.isEmpty then .ok (type name).shown else .error (.noFormats "type")
  | day written => .ok (if given.isEmpty then written else writeDay written 0 given)

/-! ## Access -/

/-- What something is called that has no part of some name. -/
def holder : Value → Text
  | json v => .concat ["'", typeName v, "' object"]
  | type name => .concat ["type object '", name, "'"]
  | day _ => "'FileDateFormatter' object"

/-- The parts of a number: it is a complex number without an imaginary part, and a whole number is a
fraction too. -/
def numberPart? (name : Text) : Json → Option Json
  | .int n =>
    if name = Text.ofString "real" || name = Text.ofString "numerator" then some (.int n)
    else if name = Text.ofString "imag" then some (.int 0)
    else if name = Text.ofString "denominator" then some (.int 1)
    else none
  | .float x =>
    if name = Text.ofString "real" then some (.float x)
    else if name = Text.ofString "imag" then some (.float .zero)
    else none
  | _ => none

/-- A truth value as a number. -/
def asNumber : Json → Json
  | .bool b => .int (if b then 1 else 0)
  | v => v

/-- The part of a value that has the given name. -/
def part? (name : Text) : Value → Option Value
  | json v =>
    if name = Text.ofString "__class__" then some (type (typeName v))
    else (numberPart? name (asNumber v)).map json
  | type t =>
    if name = Text.ofString "__class__" then some (type "type")
    else if name = Text.ofString "__name__" || name = Text.ofString "__qualname__" then
      some (json (.string t))
    else none
  | day _ => none

def itemOf (index : Nat) : Json → Except FillFault Json
  | .array items => match items[index]? with
    | some v => .ok v
    | none => .error (.beyondEnd "list")
  | .string t => match t[index]? with
    | some c => .ok (.string [c])
    | none => .error (.beyondEnd "string")
  | .object _ => .error (.missingNumber index)
  | v => .error (.noItems (holder (json v)))

def memberOf (name : Text) : Json → Except FillFault Json
  | .object members => match Table.get? members name with
    | some v => .ok v
    | none => .error (.missingName name)
  | .array _ => .error (.notCounted "list indices must be integers or slices, not str")
  | .string _ => .error (.notCounted "string indices must be integers, not 'str'")
  | v => .error (.noItems (holder (json v)))

/-- What is wrong with brackets after what is no value. -/
def bracketFault : Value → FillFault
  | type name => .noItems (.concat ["type '", name, "'"])
  | v => .noItems v.holder

/-- Takes a step. -/
def access (v : Value) : Access → Except FillFault Value
  | .part name => match v.part? name with
    | some v => .ok v
    | none => .error (.noPart v.holder name)
  | .item index => match v with
    | json v => (itemOf index v).map json
    | v => .error v.bracketFault
  | .member name => match v with
    | json v => (memberOf name v).map json
    | v => .error v.bracketFault

/-! ## Reading steps -/

def point : Nat := 0x2E
def openBracket : Nat := 0x5B
def closeBracket : Nat := 0x5D

/-- The number that a text of digits of any script stands for. -/
def number? (t : Text) : Option Nat :=
  if !t.isEmpty && t.all fun c => (CodePoint.digitValue? c).isSome then
    some ((t.filterMap CodePoint.digitValue?).foldl (fun n d => 10 * n + d) 0)
  else none

/-- A number in a message, which must be below a limit. -/
def counted (n : Nat) : Except FillFault Nat :=
  if Format.countLimit ≤ n then Format.malformed "Too many decimal digits in format string"
  else .ok n

def nonEmpty (t : Text) : Except FillFault Text :=
  if t.isEmpty then Format.malformed "Empty attribute in format string" else .ok t

/-- The step of a text in brackets: an item if it is a number. -/
def bracketed (t : Text) : Except FillFault Access :=
  match number? t with
  | some n => (counted n).map .item
  | none => (nonEmpty t).map .member

/-- Where reading stands among the steps. -/
inductive Place where
  | between
  | inPart (read : Text)
  | inBrackets (read : Text)

/-- The steps that a text gives, up to the first that makes no sense. -/
def steps : Place → Text → List (Except FillFault Access)
  | .between, [] => []
  | .inPart read, [] => [(nonEmpty read).map .part]
  | .inBrackets _, [] => [Format.malformed "Missing ']' in format string"]
  | .between, c :: rest =>
    if c = point then steps (.inPart []) rest
    else if c = openBracket then steps (.inBrackets []) rest
    else [Format.malformed "Only '.' or '[' may follow ']' in format field specifier"]
  | .inPart read, c :: rest =>
    if c = point then (nonEmpty read).map .part :: steps (.inPart []) rest
    else if c = openBracket then (nonEmpty read).map .part :: steps (.inBrackets []) rest
    else steps (.inPart (read ++ [c])) rest
  | .inBrackets read, c :: rest =>
    if c = closeBracket then bracketed read :: steps .between rest
    else steps (.inBrackets (read ++ [c])) rest

/-- Takes the steps that a text gives, one after another. -/
def reach (v : Value) (path : Text) : Except FillFault Value :=
  (steps .between path).foldlM (fun v step => do v.access (← step)) v

end Value

end Log

end Wireframe
