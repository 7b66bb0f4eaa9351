import Wireframe.Json.Value
import Wireframe.Number.Numeral
import Wireframe.Text.Utf8

/-!
# Reading JSON

The reader takes the standard's grammar, and the three words `NaN`, `Infinity` and `-Infinity` as
numbers. A number without fraction and exponent is a whole number, of at most
`Numeral.digitLimit` digits. Of two members with one name the last counts. Escapes may write a
surrogate alone; a high one followed by a low one is one code point. There is no byte order mark.

Each reading function returns what it read and the text that follows. The functions that call
each other count down a `fuel`; a call consumes text at least every third time, so three times the
length of the text is enough. They also count how many brackets may still be opened inside one
another. A bracket beyond these ends the reading at once, whatever is wrong after it: it is not that
the text is no JSON, but that the reader cannot go deeper.
-/
namespace Wireframe

namespace Json

/-! ## Blanks and words -/

/-- Blank, tab, line feed and carriage return. -/
def isJsonBlank (c : Nat) : Bool := c = 0x20 || c = 0x09 || c = 0x0A || c = 0x0D

def skipBlanks (t : Text) : Text := t.dropWhile isJsonBlank

/-- What follows `word` at the start of the text. -/
def afterWord? (word t : Text) : Option Text :=
  if word.isPrefixOf t then some (t.drop word.length) else none

/-! ## Strings -/

/-- The number of four hexadecimal digits, and what follows them. -/
def readHex4 : Text → Option (Nat × Text)
  | a :: b :: c :: d :: rest => do
    let value := (((← Text.hexValue? a) * 16 + (← Text.hexValue? b)) * 16 +
      (← Text.hexValue? c)) * 16 + (← Text.hexValue? d)
    return (value, rest)
  | _ => none

/-- What an escape of one letter stands for. -/
def simpleEscape? (c : Nat) : Option Nat :=
  if c = 0x22 || c = 0x5C || c = 0x2F then some c
  else if c = 0x62 then some 0x08
  else if c = 0x66 then some 0x0C
  else if c = 0x6E then some 0x0A
  else if c = 0x72 then some 0x0D
  else if c = 0x74 then some 0x09
  else none

/-- The low surrogate written by the escape at the start of the text. -/
def readLowSurrogate : Text → Option (Nat × Text)
  | 0x5C :: 0x75 :: rest => do
    let (low, rest) ← readHex4 rest
    if CodePoint.isLowSurrogate low then some (low, rest) else none
  | _ => none

/-- The code point of an escape, without its backslash. -/
def readEscape : Text → Option (Nat × Text)
  | [] => none
  | c :: rest =>
    if c = 0x75 then do
      let (value, rest) ← readHex4 rest
      if CodePoint.isHighSurrogate value then
        match readLowSurrogate rest with
        | some (low, rest) => return (0x10000 + (value - 0xD800) * 0x400 + (low - 0xDC00), rest)
        | none => return (value, rest)
      else return (value, rest)
    else (simpleEscape? c).map fun value => (value, rest)

/-- The rest of a string after its opening quote. -/
def readString : Nat → Text → Option (Text × Text)
  | 0, _ => none
  | _, [] => none
  | fuel + 1, c :: rest =>
    if c = 0x22 then some ([], rest)
    else if c = 0x5C then do
      let (value, rest) ← readEscape rest
      let (body, rest) ← readString fuel rest
      return (value :: body, rest)
    else if c < 0x20 then none
    else do
      let (body, rest) ← readString fuel rest
      return (c :: body, rest)

/-! ## Numbers -/

/-- The digits of a whole number: no zero before another digit. -/
def readWholeDigits (t : Text) : Option (Text × Text) :=
  match t with
  | [] => none
  | c :: rest =>
    if c = 0x30 then some ([c], rest)
    else if CodePoint.isDigit c then some (Numeral.digits t)
    else none

/-- A point with digits after it. -/
def readFraction (t : Text) : Option (Text × Text) :=
  match t with
  | 0x2E :: rest =>
    let (ds, rest) := Numeral.digits rest
    if ds.isEmpty then none else some (ds, rest)
  | _ => none

/-- A letter E with a sign, if any, and digits after it. -/
def readExponent (t : Text) : Option (Int × Text) :=
  match t with
  | c :: rest =>
    if c = 0x65 || c = 0x45 then
      let (negative, rest) := Numeral.sign rest
      let (ds, rest) := Numeral.digits rest
      let value : Int := Text.digitsValue ds
      if ds.isEmpty then none else some (if negative then -value else value, rest)
    else none
  | [] => none

/-- A number at the start of the text. -/
def readNumber (t : Text) : Option (Json × Text) := do
  let (negative, unsigned) := match t with
    | 0x2D :: rest => (true, rest)
    | _ => (false, t)
  let (whole, rest) ← readWholeDigits unsigned
  match readFraction rest, readExponent ((readFraction rest).elim rest (·.2)) with
  | none, none =>
    if Numeral.digitLimit < whole.length then none
    else
      let value : Int := Text.digitsValue whole
      some (int (if negative then -value else value), rest)
  | fraction, exponent =>
    let part := fraction.elim [] (·.1)
    let after := exponent.elim (fraction.elim rest (·.2)) (·.2)
    let power := exponent.elim 0 (·.1)
    let significand := Text.digitsValue (whole ++ part)
    let value := Binary64.ofDecimal negative significand (power - part.length)
    some (float value, after)

/-- A word or a number at the start of the text. -/
def readAtom (t : Text) : Option (Json × Text) :=
  let word (spelling : Text) (value : Json) : Option (Json × Text) :=
    (afterWord? spelling t).map (value, ·)
  word "null" null <|> word "true" (bool true) <|> word "false" (bool false) <|>
    word "NaN" (float .nan) <|> word "Infinity" (float (.infinite false)) <|>
    word "-Infinity" (float (.infinite true)) <|> readNumber t

/-! ## Values -/

/-- Why a text is not read. -/
inductive ReadFault where
  | malformed
  /-- One bracket more is opened, that of the `holder`, than may be open at once. -/
  | tooDeep (holder : Holder)
  deriving DecidableEq

/-- A text that has no such part is malformed. -/
def needed {α : Type} : Option α → Except ReadFault α
  | some a => .ok a
  | none => .error .malformed

mutual

/-- A value at the start of the text, no blanks before it, with at most `depth` brackets open at
once. -/
def readValue : Nat → Nat → Text → Except ReadFault (Json × Text)
  | 0, _, _ => .error .malformed
  | _, _, [] => .error .malformed
  | fuel + 1, depth, c :: rest =>
    if c = 0x22 then do
      let (t, rest) ← needed (readString fuel rest)
      return (string t, rest)
    else if c = 0x5B then readArray fuel depth rest
    else if c = 0x7B then readObject fuel depth rest
    else needed (readAtom (c :: rest))

/-- An array after its opening bracket. -/
def readArray : Nat → Nat → Text → Except ReadFault (Json × Text)
  | _, 0, _ => .error (.tooDeep .array)
  | 0, _, _ => .error .malformed
  | fuel + 1, depth + 1, t => do
    let t := skipBlanks t
    if t.head? = some 0x5D then return (array [], t.tail)
    else
      let (items, rest) ← readItems fuel depth t
      return (array items, rest)

/-- The items of an array from its first one on, and its closing bracket. -/
def readItems : Nat → Nat → Text → Except ReadFault (List Json × Text)
  | 0, _, _ => .error .malformed
  | fuel + 1, depth, t => do
    let (item, rest) ← readValue fuel depth t
    match skipBlanks rest with
    | 0x5D :: rest => return ([item], rest)
    | 0x2C :: rest =>
      let (items, rest) ← readItems fuel depth (skipBlanks rest)
      return (item :: items, rest)
    | _ => throw .malformed

/-- An object after its opening brace. -/
def readObject : Nat → Nat → Text → Except ReadFault (Json × Text)
  | _, 0, _ => .error (.tooDeep .object)
  | 0, _, _ => .error .malformed
  | fuel + 1, depth + 1, t => do
    let t := skipBlanks t
    if t.head? = some 0x7D then return (object [], t.tail)
    else
      let (members, rest) ← readMembers fuel depth t
      return (object (Table.ofEntries members), rest)

/-- The members of an object from its first one on, and its closing brace. -/
def readMembers : Nat → Nat → Text → Except ReadFault (List (Text × Json) × Text)
  | 0, _, _ => .error .malformed
  | fuel + 1, depth, t => do
    let rest ← needed (afterWord? "\"" t)
    let (name, rest) ← needed (readString fuel rest)
    let rest ← needed (afterWord? ":" (skipBlanks rest))
    let (value, rest) ← readValue fuel depth (skipBlanks rest)
    match skipBlanks rest with
    | 0x7D :: rest => return ([(name, value)], rest)
    | 0x2C :: rest =>
      let (members, rest) ← readMembers fuel depth (skipBlanks rest)
      return ((name, value) :: members, rest)
    | _ => throw .malformed

end

/-- How many brackets may be open at once where a run comes to its document, if the interpreter
allows a thousand calls and ten of them lead there. -/
def nestingLimit : Nat := 990

/-- The value that the whole text writes with at most `nesting` brackets open at once. -/
def read (nesting : Nat) (t : Text) : Except ReadFault Json := do
  let (value, rest) ← readValue (3 * t.length + 2) nesting (skipBlanks t)
  if (skipBlanks rest).isEmpty then return value else throw .malformed

/-- The value written by octets in UTF-8. -/
def readOctets (nesting : Nat) (octets : Octets) : Except ReadFault Json := do
  read nesting (← needed (Utf8.decode octets))

end Json

end Wireframe
