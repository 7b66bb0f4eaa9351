import Wireframe.Table
import Wireframe.Text.Blank

/-!
# Files of bindings

A file of bindings gives values to variables, one `NAME=value` to a line. The word `export` may
stand before the name, blanks around the equals sign, and a comment after the value. A value in
quotes keeps its blanks and may go over several lines; one without quotes ends with its line or
before a comment. A line that makes no sense is skipped. In a value a name in braces after a dollar
sign refers to a variable, and a default for it may follow the name.
-/
namespace Wireframe

/-- A variable and its value; a name alone has none. -/
structure Binding where
  name : Text
  value : Option Text
  deriving DecidableEq

namespace Binding

def hash : Nat := 0x23
def equals : Nat := 0x3D
def singleQuote : Nat := 0x27
def doubleQuote : Nat := 0x22
def backslash : Nat := 0x5C

/-- A blank within a line. -/
def isInlineBlank (c : Nat) : Bool := CodePoint.isBlank c && c ≠ CodePoint.lineFeed

def skipInlineBlanks (t : Text) : Text := t.dropWhile isInlineBlank

/-- Line feeds for all line ends that a file may have. -/
def unifyLineEnds : Text → Text
  | [] => []
  | c :: rest =>
    if c = CodePoint.carriageReturn then
      if rest.head? = some CodePoint.lineFeed then unifyLineEnds rest
      else CodePoint.lineFeed :: unifyLineEnds rest
    else c :: unifyLineEnds rest

/-- The rest of a line, and what follows its line feed. -/
def skipLine (t : Text) : Text := (t.dropWhile (· ≠ CodePoint.lineFeed)).drop 1

/-! ## Values -/

/-- The text before the quote that closes it, and what follows the quote. A backslash and the code
point after it belong together. -/
def upToQuote (quote : Nat) : Text → Option (Text × Text)
  | [] => none
  | [c] => if c = quote then some ([], []) else none
  | c :: d :: rest =>
    if c = quote then some ([], d :: rest)
    else if c = backslash then
      (upToQuote quote rest).map fun (body, rest) => (c :: d :: body, rest)
    else (upToQuote quote (d :: rest)).map fun (body, rest) => (c :: body, rest)

/-- What a backslash and a code point stand for in single quotes. -/
def singleEscape? (c : Nat) : Option Nat :=
  if c = backslash || c = singleQuote then some c else none

/-- What a backslash and a code point stand for in double quotes. -/
def doubleEscape? (c : Nat) : Option Nat :=
  if c = backslash || c = singleQuote || c = doubleQuote then some c
  else if c = 0x61 then some 0x07
  else if c = 0x62 then some 0x08
  else if c = 0x66 then some 0x0C
  else if c = 0x6E then some 0x0A
  else if c = 0x72 then some 0x0D
  else if c = 0x74 then some 0x09
  else if c = 0x76 then some 0x0B
  else none

/-- Replaces the escapes that `escape?` knows; any other backslash stands for itself. -/
def unescape (escape? : Nat → Option Nat) : Text → Text
  | [] => []
  | [c] => [c]
  | c :: d :: rest =>
    if c = backslash then
      match escape? d with
      | some e => e :: unescape escape? rest
      | none => c :: unescape escape? (d :: rest)
    else c :: unescape escape? (d :: rest)

/-- The part of a line before a comment, which starts with a hash after a blank; `afterBlank`
says whether a blank precedes the text. -/
def beforeComment (afterBlank : Bool) : Text → Text
  | [] => []
  | c :: rest =>
    if afterBlank && c = hash then [] else c :: beforeComment (CodePoint.isBlank c) rest

/-- The value at the start of the text and what follows; `none` for quotes that do not close.
`afterBlank` says whether a blank precedes the text. -/
def readValue (afterBlank : Bool) : Text → Option (Text × Text)
  | [] => some ([], [])
  | c :: rest =>
    if c = singleQuote then
      (upToQuote c rest).map fun (body, rest) => (unescape singleEscape? body, rest)
    else if c = doubleQuote then
      (upToQuote c rest).map fun (body, rest) => (unescape doubleEscape? body, rest)
    else
      let line := (c :: rest).takeWhile (· ≠ CodePoint.lineFeed)
      some ((beforeComment afterBlank line).trimEndBy CodePoint.isBlank,
        (c :: rest).dropWhile (· ≠ CodePoint.lineFeed))

/-! ## Lines -/

/-- Without the word `export` and the blanks after it. -/
def skipExport (t : Text) : Text :=
  let word := Text.ofString "export"
  let rest := t.drop word.length
  if word.isPrefixOf t && rest.head?.any isInlineBlank then skipInlineBlanks rest else t

/-- Whether a code point can stand in a name without quotes. -/
def isNameText (c : Nat) : Bool := c ≠ equals && c ≠ hash && !CodePoint.isBlank c

/-- The name at the start of the text and what follows; `none` where no name can be read. -/
def readName (t : Text) : Option (Text × Text) :=
  let (name, rest) :=
    if t.head? = some singleQuote then
      match Text.cut singleQuote (t.drop 1) with
      | (name, some rest) => (name, rest)
      | (_, none) => ([], t)
    else (t.takeWhile isNameText, t.dropWhile isNameText)
  if name.isEmpty then none else some (name, rest)

/-- What follows the end of a line that may hold a comment; `none` where the line goes on. -/
def endLine? (t : Text) : Option Text :=
  let rest := skipInlineBlanks t
  let rest := if rest.head? = some hash then rest.dropWhile (· ≠ CodePoint.lineFeed) else rest
  match rest with
  | [] => some []
  | c :: rest => if c = CodePoint.lineFeed then some rest else none

/-- The value after the equals sign, if the text starts with one; a failure leaves what could not
be read. -/
def readAssigned (t : Text) : Except Text (Option Text × Text) :=
  let t := skipInlineBlanks t
  if t.head? = some equals then
    let afterBlank := (t.drop 1).head?.any isInlineBlank
    let t := skipInlineBlanks (t.drop 1)
    match readValue afterBlank t with
    | some (value, rest) => .ok (some value, rest)
    | none => .error t
  else .ok (none, t)

/-- The binding of the first line and the lines that follow. -/
def readLine (t : Text) : Option Binding × Text :=
  let t := skipExport t
  if t.head? = some hash then (none, skipLine t)
  else match readName t with
    | none => (none, skipLine t)
    | some (name, rest) => match readAssigned rest with
      | .error rest => (none, skipLine rest)
      | .ok (value, rest) => match endLine? rest with
        | some rest => (some ⟨name, value⟩, rest)
        | none => (none, skipLine rest)

/-- The bindings of at most `count` lines that are not blank. -/
def readLines : (count : Nat) → Text → List Binding
  | 0, _ => []
  | count + 1, t =>
    match t.dropWhile CodePoint.isBlank with
    | [] => []
    | c :: rest =>
      let (binding, rest) := readLine (c :: rest)
      binding.toList ++ readLines count rest

/-- The bindings of a file, in order. Each line takes part of the text, so there are no more lines
than code points. -/
def readAll (t : Text) : List Binding :=
  let t := unifyLineEnds t
  readLines t.length t

/-! ## References -/

def dollar : Nat := 0x24
def openBrace : Nat := 0x7B
def closeBrace : Nat := 0x7D
def colon : Nat := 0x3A
def dash : Nat := 0x2D

/-- The reference whose dollar sign precedes the text: the name, the default, and how many code
points belong to it. -/
def reference? : Text → Option (Text × Text × Nat)
  | [] => none
  | c :: rest =>
    if c ≠ openBrace then none
    else match Text.cut closeBrace rest with
      | (_, none) => none
      | (inner, some _) => match Text.cut colon inner with
        | (name, none) => some (name, [], inner.length + 2)
        | (name, some default) =>
          if default.head? = some dash then some (name, default.drop 1, inner.length + 2) else none

/-- Replaces references by what `value` gives for their names and defaults; `skip` code points
belong to a reference that was replaced. -/
def expand (value : Text → Text → Text) : (skip : Nat) → Text → Text
  | _, [] => []
  | skip + 1, _ :: rest => expand value skip rest
  | 0, c :: rest =>
    if c = dollar then
      match reference? rest with
      | some (name, default, length) => value name default ++ expand value length rest
      | none => c :: expand value 0 rest
    else c :: expand value 0 rest

/-- The value of a variable; a variable that has none is empty. -/
def referred (known : Table (Option Text)) (name default : Text) : Text :=
  match known.get? name with
  | some value => value.getD []
  | none => default

/-- The bindings with their references replaced, in order: a reference finds the variables that
were bound before it and those that are `known`. -/
def expandAll (known : Table (Option Text)) : List Binding → List Binding
  | [] => []
  | b :: rest =>
    let b := { b with value := b.value.map (expand (referred known) 0) }
    b :: expandAll (known.put b.name b.value) rest

end Binding

end Wireframe
