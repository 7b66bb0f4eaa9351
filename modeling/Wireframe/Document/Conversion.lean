import Wireframe.Document.Checked
import Wireframe.Number.Numeral
import Wireframe.Text.Utf8

/-!
# Reading single values

How a JSON value is taken for a text, a number, a whole number, a truth value or a list. Numbers
and truth values are read from texts too, and from each other where nothing is lost.
-/
namespace Wireframe

namespace Conversion

open Checked

/-- Whether a text can be written in UTF-8. -/
def isUnicode (t : Text) : Bool := t.all fun c => !CodePoint.isSurrogate c

/-- A text as it is. -/
def text : Json → Checked Text
  | .string t => accepted t
  | _ => problem .notText

/-- What `read` takes from a value, or nothing from null. -/
def optional {α : Type} (read : Json → Checked α) : Json → Checked (Option α)
  | .null => accepted none
  | v => (read v).map some

/-- A floating-point number. -/
def number : Json → Checked Binary64
  | .float x => accepted x
  | .int n => match Binary64.ofInt? n with
    | some x => accepted x
    | none => problem .notNumber
  | .bool b => accepted (if b then .one else .zero)
  | .string t =>
    if !isUnicode t then problem .notUnicode
    else match Numeral.readStoredFloat? t with
      | some x => accepted x
      | none => problem .unreadableNumber
  | _ => problem .notNumber

/-- The whole number that a finite number equals. -/
def integral? : Binary64 → Option Int
  | .finite negative magnitude =>
    let whole : Int := (magnitude.units / unitsPerOne : Nat)
    if magnitude.units % unitsPerOne = 0 then some (if negative then -whole else whole) else none
  | _ => none

/-- Whole numbers that come from floating-point ones lie between `-2^63` and `2^63`. -/
def fitsBetween (n : Int) : Bool := -0x8000000000000000 < n && n < 0x8000000000000000

/-- Whether a whole number is one of 64 bits. -/
def fitsWord (n : Int) : Bool := -0x8000000000000000 ≤ n && n < 0x8000000000000000

/-- A whole number. -/
def whole : Json → Checked Int
  | .int n => accepted n
  | .float x =>
    if !x.isFinite then problem .notFinite
    else match integral? x with
      | some n => if fitsBetween n then accepted n else problem .tooManyDigits
      | none => problem .fractional
  | .bool b => accepted (if b then 1 else 0)
  | .string t =>
    if !isUnicode t then problem .notUnicode
    else match Numeral.readStoredWhole t with
      | .value n => accepted n
      | .malformed => problem .unreadableWhole
      | .tooLong => problem .tooManyDigits
  | _ => problem .notWhole

/-- The texts that mean yes, in lower case. -/
def yesWords : List Text := ["1", "t", "y", "on", "yes", "true"]

/-- The texts that mean no, in lower case. -/
def noWords : List Text := ["0", "f", "n", "no", "off", "false"]

/-- A truth value of the numbers zero and one. -/
def flagOfInt (n : Int) : Checked Bool :=
  if n = 0 then accepted false else if n = 1 then accepted true else problem .unreadableFlag

/-- A truth value. -/
def flag : Json → Checked Bool
  | .bool b => accepted b
  | .string t =>
    if !isUnicode t then problem .notUnicode
    else if yesWords.contains t.toAsciiLower then accepted true
    else if noWords.contains t.toAsciiLower then accepted false
    else problem .unreadableFlag
  | .int n => if fitsWord n then flagOfInt n else problem .notFlag
  | .float x => match integral? x with
    | some n => if fitsBetween n then flagOfInt n else problem .notFlag
    | none => problem .notFlag
  | _ => problem .notFlag

/-- One of the texts that `choices` gives a value. -/
def choice {α : Type} (choices : List (Text × α)) : Json → Checked α
  | .string t =>
    if !isUnicode t then problem .notUnicode
    else match choices.lookup t with
      | some a => accepted a
      | none => problem (.notAmong (choices.map (·.1)))
  | _ => problem (.notAmong (choices.map (·.1)))

/-- A list of which `read` takes every item. -/
def list {α : Type} (read : Json → Checked α) : Json → Checked (List α)
  | .array items => all read 0 items
  | _ => problem .notList

/-! ## Fields of an object -/

/-- A field of an object; `absent` is its outcome when it is missing. -/
def field {α : Type} (members : List (Text × Json)) (name : Text) (read : Json → Checked α)
    (absent : Checked α) : Checked α :=
  under (.field name) (match Table.get? members name with
    | some v => read v
    | none => absent)

end Conversion

end Wireframe
