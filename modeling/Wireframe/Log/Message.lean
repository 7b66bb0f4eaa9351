import Wireframe.Log.Value

/-!
# Messages with fields

A message may leave fields to be filled in: a field is a name in braces, and stands for the value
of that name, or for what steps after the name lead to in it. An exclamation mark and a letter
after the name say how the value is shown: `s` as it is, `r` with a text in quotes, `a` as `r` but
in ASCII. A format may follow after a colon, and fields within the format are filled in first.
Braces that stand for themselves are written twice.
-/
namespace Wireframe

namespace Log

namespace Message

def openBrace : Nat := 0x7B
def closeBrace : Nat := 0x7D
def exclamationMark : Nat := 0x21
def colon : Nat := 0x3A

/-- The values that a message can name. -/
structure Scope where
  values : List (Text × Value)
  /-- What is wrong with a field that asks for a value by its position. -/
  unplaced : Nat → FillFault

namespace Scope

/-- The value of a name; digits are a position, and nothing is the first one. -/
def named (scope : Scope) (name : Text) : Except FillFault Value :=
  match if name.isEmpty then some 0 else Value.number? name with
  | some index => do throw (scope.unplaced (← Value.counted index))
  | none => match Table.get? scope.values name with
    | some v => .ok v
    | none => .error (.missingName name)

/-- What a name and the steps after it lead to. -/
def reach (scope : Scope) (path : Text) : Except FillFault Value := do
  let name := path.takeWhile fun c => c ≠ Value.point && c ≠ Value.openBracket
  (← scope.named name).reach (path.drop name.length)

end Scope

/-! ## Pieces -/

/-- A piece of a message. -/
inductive Piece where
  | code (c : Nat)
  /-- A field: where its value is, the letter after the exclamation mark, and the format. -/
  | field (path : Text) (letter : Option Nat) (format : Text)

/-- A field that is being read, up to some point. -/
inductive Field where
  /-- Within the name; brackets may be open there. -/
  | name (read : Text) (inBrackets : Bool)
  /-- After the exclamation mark. -/
  | conversion (name : Text)
  /-- After the letter that follows it. -/
  | converted (name : Text) (letter : Nat)
  /-- After the colon, with the braces that are open there. -/
  | format (name : Text) (letter : Option Nat) (depth : Nat) (read : Text)

namespace Field

/-- What is wrong where the message ends within a field. -/
def unclosed : Field → FillFault
  | name .. => .malformed "expected '\x7d' before end of string"
  | conversion _ => .malformed "end of string while looking for conversion specifier"
  | converted .. | format .. => .malformed "unmatched '\x7b' in format spec"

/-- What a code point makes of a field: a field that goes on, or all of it. -/
def read (c : Nat) : Field → Except FillFault (Field ⊕ Piece)
  | name t true => .ok (.inl (name (t ++ [c]) (c ≠ Value.closeBracket)))
  | name t false =>
    if c = openBrace then .error (.malformed "unexpected '\x7b' in field name")
    else if c = closeBrace then .ok (.inr (.field t none []))
    else if c = exclamationMark then .ok (.inl (conversion t))
    else if c = colon then .ok (.inl (format t none 0 []))
    else .ok (.inl (name (t ++ [c]) (c = Value.openBracket)))
  | conversion t => .ok (.inl (converted t c))
  | converted t letter =>
    if c = closeBrace then .ok (.inr (.field t (some letter) []))
    else if c = colon then .ok (.inl (format t (some letter) 0 []))
    else .error (.malformed "expected ':' after conversion specifier")
  | format t letter depth read =>
    if c = closeBrace && depth = 0 then .ok (.inr (.field t letter read))
    else
      let depth := if c = openBrace then depth + 1 else if c = closeBrace then depth - 1 else depth
      .ok (.inl (format t letter depth (read ++ [c])))

end Field

/-- A brace that neither opens a field nor stands for itself. -/
def lone (brace : Nat) : FillFault :=
  .malformed (.concat ["Single '", [brace], "' encountered in format string"])

/-- The pieces of a message, up to where it makes no sense; `opened` is the field that is open at
its start. -/
def pieces (opened : Option Field) : Text → List (Except FillFault Piece)
  | [] => match opened with
    | none => []
    | some field => [.error field.unclosed]
  | c :: rest => match opened with
    | some field => match field.read c with
      | .ok (.inl field) => pieces (some field) rest
      | .ok (.inr piece) => .ok piece :: pieces none rest
      | .error fault => [.error fault]
    | none =>
      if c = openBrace then
        match rest with
        | [] => [.error (lone c)]
        | d :: rest =>
          if d = openBrace then .ok (.code c) :: pieces none rest
          else pieces (some (.name [] false)) (d :: rest)
      else if c = closeBrace then
        match rest with
        | [] => [.error (lone c)]
        | d :: rest =>
          if d = closeBrace then .ok (.code c) :: pieces none rest else [.error (lone c)]
      else .ok (.code c) :: pieces none rest

/-- Whether all of a message makes sense, whatever the values are. -/
def check (message : Text) : Except FillFault Unit :=
  (pieces none message).forM fun piece => piece.map fun _ => ()

/-! ## Filling in -/

/-- How a value is shown. -/
def showing (letter : Nat) : Except FillFault (Value → Text) :=
  if letter = 0x73 then .ok Value.plain
  else if letter = 0x72 then .ok Value.shown
  else if letter = 0x61 then .ok fun v => v.shown.inAscii
  else
    let name : Text := if letter = 0x7F then "\\x7f" else Format.styleName letter
    .error (.malformed (.concat ["Unknown conversion specifier ", name]))

/-- The text of a piece; `inner` fills in the fields of its format. -/
def Piece.text (scope : Scope) (inner : Text → Except FillFault Text) :
    Piece → Except FillFault Text
  | code c => .ok [c]
  | field path letter format => do
    let v ← scope.reach path
    let v ← match letter with
      | none => pure v
      | some c => do pure (Value.json (.string ((← showing c) v)))
    v.formatted (← if format.contains openBrace then inner format else pure format)

/-- Pieces with their fields filled in, one after another. -/
def fillPieces (scope : Scope) (inner : Text → Except FillFault Text) :
    List (Except FillFault Piece) → Except FillFault Text
  | [] => .ok []
  | piece :: rest => do
    let text ← (← piece).text scope inner
    return text ++ (← fillPieces scope inner rest)

/-- A format, with its fields filled in. The formats of these have no fields. -/
def fillFormat (scope : Scope) (format : Text) : Except FillFault Text :=
  fillPieces scope (fun _ => .error (.malformed "Max string recursion exceeded"))
    (pieces none format)

/-- The message with its fields filled in. -/
def fill (scope : Scope) (message : Text) : Except FillFault Text :=
  fillPieces scope (fillFormat scope) (pieces none message)

end Message

end Log

end Wireframe
