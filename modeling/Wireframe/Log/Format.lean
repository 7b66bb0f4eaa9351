import Wireframe.Fault
import Wireframe.Text.DigitTable

/-!
# Formats

A format says how a value is written into its field: how wide, where the fill goes, with which
sign, in which style. It is given as a text, part after part, each of which may be missing:

    [[fill]alignment] [sign] [z] [#] [0] [width] [separator] [.precision] [style]

Texts, whole numbers and numbers have formats; every value has the empty one.
-/
namespace Wireframe

namespace Log

/-- Where a value stands in its field. -/
inductive Alignment where
  | left
  | right
  | centre
  /-- At the right, with the fill after the sign. -/
  | afterSign
  deriving DecidableEq, Repr

def Alignment.ofMark? (c : Nat) : Option Alignment :=
  if c = 0x3C then some left
  else if c = 0x3E then some right
  else if c = 0x5E then some centre
  else if c = 0x3D then some afterSign
  else none

structure Format where
  fill : Nat
  alignment : Alignment
  /-- A plus sign or a space is what stands before a number that is not negative. -/
  sign : Option Nat
  /-- Whether a number that rounds to zero loses its minus sign. -/
  unsignedZero : Bool
  /-- Whether bases are marked and points are kept. -/
  alternate : Bool
  width : Nat
  separator : Option Nat
  precision : Option Nat
  /-- A letter; `none` is the style of a number that no letter names. -/
  style : Option Nat

namespace Format

def malformed {α : Type} (reason : Text) : Except FillFault α := .error (.malformed reason)

/-! ## Reading -/

def letter (c : Char) : Nat := c.toNat

def zero : Nat := letter '0'
def comma : Nat := letter ','
def underscore : Nat := letter '_'

/-- What the values of a type have in common: where they stand, and in which style, when a format
leaves it open. -/
structure Family where
  name : Text
  alignment : Alignment
  style : Option Nat

namespace Family

def text : Family := ⟨"str", .left, some (letter 's')⟩
def whole : Family := ⟨"int", .right, some (letter 'd')⟩
def flag : Family := ⟨"bool", .right, some (letter 'd')⟩
def number : Family := ⟨"float", .right, none⟩

end Family

/-- What may stand in the place of the sign. -/
def signs : Text := "+- "

/-- The fill and the alignment, and what follows them. -/
def readAlignment : Text → Option Nat × Option Alignment × Text
  | [] => (none, none, [])
  | a :: rest =>
    match rest.head?.bind Alignment.ofMark? with
    | some alignment => (some a, some alignment, rest.drop 1)
    | none =>
      match Alignment.ofMark? a with
      | some alignment => (none, some alignment, rest)
      | none => (none, none, a :: rest)

/-- The first code point if it is expected there, and what follows it. -/
def readOne (expected : Nat → Bool) : Text → Option Nat × Text
  | c :: rest => if expected c then (some c, rest) else (none, c :: rest)
  | [] => (none, [])

/-- Counts from here on cannot be written. -/
def countLimit : Nat := 0x8000000000000000

/-- The number that the digits of any script at the start of a text make, and what follows it. -/
def readCount (t : Text) : Except FillFault (Option Nat × Text) :=
  let digits := t.takeWhile fun c => (CodePoint.digitValue? c).isSome
  let count := (digits.filterMap CodePoint.digitValue?).foldl (fun n d => 10 * n + d) 0
  if digits.isEmpty then .ok (none, t)
  else if countLimit ≤ count then malformed "Too many decimal digits in format string"
  else .ok (some count, t.drop digits.length)

/-- The precision after its point, and what follows it. -/
def readPrecision (t : Text) : Except FillFault (Option Nat × Text) :=
  match readOne (· = letter '.') t with
  | (none, t) => .ok (none, t)
  | (some _, t) => do
    let (precision, t) ← readCount t
    if precision.isNone then malformed "Format specifier missing precision"
    else return (precision, t)

def readSeparator (t : Text) : Except FillFault (Option Nat × Text) :=
  let (first, t) := readOne (· = comma) t
  let (second, t) := readOne (· = underscore) t
  if second.isSome && (first.isSome || t.head? = some comma) then
    malformed "Cannot specify both ',' and '_'."
  else .ok (first <|> second, t)

/-- How a message names a style: by its number if it is no visible ASCII. -/
def styleName (c : Nat) : Text :=
  if CodePoint.space < c && c < 0x80 then [c] else "\\x" ++ Text.paddedHex 1 c

def unknownStyle {α : Type} (family : Family) (c : Nat) : Except FillFault α :=
  malformed (.concat ["Unknown format code '", styleName c, "' for object of type '", family.name,
    "'"])

/-- The styles whose digits a separator groups. -/
def groupedStyles : Text := "deEfFgG%"

/-- The styles with other bases than ten; only an underscore groups their digits. -/
def basedStyles : Text := "boxX"

def checkSeparator (separator style : Option Nat) : Except FillFault Unit :=
  match separator, style with
  | some mark, some c =>
    if groupedStyles.contains c || (basedStyles.contains c && mark = underscore) then .ok ()
    else malformed (.concat ["Cannot specify '", [mark], "' with '", styleName c, "'."])
  | _, _ => .ok ()

/-- The format that a text gives for the values of a family. -/
def read (family : Family) (given : Text) : Except FillFault Format := do
  let (fill, alignment, t) := readAlignment given
  let (sign, t) := readOne signs.contains t
  let (unsigned, t) := readOne (· = letter 'z') t
  let (alternate, t) := readOne (· = letter '#') t
  let (zeros, t) := readOne (fun c => fill.isNone && c = zero) t
  let (width, t) ← readCount t
  let (separator, t) ← readSeparator t
  let (precision, t) ← readPrecision t
  if 1 < t.length then
    malformed (.concat ["Invalid format specifier '", given, "' for object of type '", family.name,
      "'"])
  let style := t.head? <|> family.style
  checkSeparator separator style
  let padded := if zeros.isSome && family.alignment = .right then .afterSign else family.alignment
  return { fill := (fill <|> zeros).getD CodePoint.space
           alignment := alignment.getD padded
           sign, unsignedZero := unsigned.isSome, alternate := alternate.isSome
           width := width.getD 0, separator, precision, style }

/-! ## Placing -/

/-- The value in its field: `before` is what the fill of `afterSign` follows. -/
def place (f : Format) (before body : Text) : Text :=
  let missing := f.width - (before.length + body.length)
  let fill (count : Nat) := List.replicate count f.fill
  match f.alignment with
  | .left => before ++ body ++ fill missing
  | .right => fill missing ++ before ++ body
  | .centre => fill (missing / 2) ++ before ++ body ++ fill (missing - missing / 2)
  | .afterSign => before ++ fill missing ++ body

/-- The digits, given and answered from the last to the first, with zeros up to a width and
`separator` between groups of `size`. -/
def grouped (size separator : Nat) (digits : Text) (width : Nat) : Text :=
  let count := max 1 (min size (max digits.length width))
  let group := digits.take count ++ List.replicate (count - digits.length) zero
  if digits.length ≤ count ∧ width ≤ count then group
  else group ++ separator :: grouped size separator (digits.drop count) (width - count - 1)
termination_by digits.length + width
decreasing_by simp only [List.length_drop]; omega

/-- The digits before the point, with zeros up to a width and separators. -/
def wholeDigits (f : Format) (digits : Text) (width : Nat) : Text :=
  match f.separator with
  | none => List.replicate (width - digits.length) zero ++ digits
  | some mark =>
    let size := if f.style.any basedStyles.contains then 4 else 3
    (grouped size mark digits.reverse width).reverse

/-- The sign of a number. -/
def signText (f : Format) (negative : Bool) : Text :=
  if negative then "-"
  else match f.sign with
    | some c => if c = letter '-' then [] else [c]
    | none => []

/-- A number in its field: its sign, the mark of its base, its digits, and what follows these. -/
def placeNumber (f : Format) (negative : Bool) (mark digits rest : Text) : Text :=
  let before := f.signText negative ++ mark
  let least :=
    if f.fill = zero && f.alignment = .afterSign then f.width - (before.length + rest.length) else 0
  let digits := if digits.isEmpty then [] else f.wholeDigits digits least
  f.place before (digits ++ rest)

/-! ## Texts -/

def ofText (f : Format) (t : Text) : Except FillFault Text :=
  if f.style ≠ some (letter 's') then unknownStyle .text (f.style.getD 0)
  else if f.sign = some CodePoint.space then
    malformed "Space not allowed in string format specifier"
  else if f.sign.isSome then malformed "Sign not allowed in string format specifier"
  else if f.unsignedZero then
    malformed "Negative zero coercion (z) not allowed in string format specifier"
  else if f.alternate then malformed "Alternate form (#) not allowed in string format specifier"
  else if f.alignment = .afterSign then
    malformed "'=' alignment not allowed in string format specifier"
  else .ok (f.place [] (t.take (f.precision.getD t.length)))

/-! ## Numbers -/

/-- The digits of the significand, and whether all of them are zero. -/
def isZeroText (t : Text) : Bool :=
  (t.takeWhile (· ≠ letter 'e')).all fun c => c = zero || c = letter '.'

/-- The precision of the styles that need one and have none. -/
def usualPrecision : Nat := 6

/-- The text of a magnitude in a style that is given in lower case. -/
def magnitudeText (f : Format) (style : Option Nat) (magnitude : Magnitude) : Text :=
  let precision := f.precision.getD usualPrecision
  match style with
  | none => match f.precision with
    | none => Binary64.shortestMagnitudeText f.alternate magnitude
    | some precision => Binary64.generalText f.alternate true precision magnitude.units
  | some c =>
    if c = letter 'e' then Binary64.scientificText f.alternate precision magnitude.units
    else if c = letter 'f' then Binary64.fixedText f.alternate precision magnitude.units
    else Binary64.generalText f.alternate false precision magnitude.units

/-- The sign and the text of a number in a style. -/
def numberText (f : Format) (style : Option Nat) : Binary64 → Bool × Text
  | .nan => (false, "nan")
  | .infinite negative => (negative, "inf")
  | .finite negative magnitude =>
    let t := f.magnitudeText style magnitude
    (negative && !(f.unsignedZero && isZeroText t), t)

/-- The styles of numbers. -/
def numberStyles : Text := "eEfFgGn%"

def oneHundred : Binary64 := .ofDecimal false 100 0

/-- Precisions of numbers are at most that. -/
def precisionLimit : Nat := 0x7FFFFFFF

def ofNumber (family : Family) (f : Format) (x : Binary64) : Except FillFault Text :=
  if f.style.any fun c => !numberStyles.contains c then unknownStyle family (f.style.getD 0)
  else if f.precision.any (precisionLimit < ·) then malformed "precision too big"
  else match f.style with
    | some c =>
      if c = letter '%' then
        let (negative, t) := f.numberText (some (letter 'f')) (x * oneHundred)
        .ok (write negative (t ++ [c]))
      else
        let (negative, t) := f.numberText (some (CodePoint.toAsciiLower c)) x
        .ok (write negative (if CodePoint.isUpper c then t.toAsciiUpper else t))
    | none =>
      let (negative, t) := f.numberText none x
      .ok (write negative t)
where
  write (negative : Bool) (t : Text) : Text :=
    f.placeNumber negative [] (t.takeWhile CodePoint.isDigit) (t.dropWhile CodePoint.isDigit)

/-! ## Whole numbers -/

/-- The base that a style writes in, and the mark of it. -/
def base (style : Nat) : Nat × Text :=
  if style = letter 'b' then (2, "0b")
  else if style = letter 'o' then (8, "0o")
  else if style = letter 'x' || style = letter 'X' then (16, "0x")
  else (10, "")

/-- The styles of whole numbers alone. -/
def wholeStyles : Text := "bcdoxXn"

/-- A whole number as the code point that it is. -/
def ofCodePoint (f : Format) (n : Int) : Except FillFault Text :=
  if f.sign.isSome then malformed "Sign not allowed with integer format specifier 'c'"
  else if f.alternate then
    malformed "Alternate form (#) not allowed with integer format specifier 'c'"
  else if n < 0 || 0x110000 ≤ n then .error (.notCodePoint n)
  else .ok (f.placeNumber false [] [] [n.toNat])

/-- A whole number in the base of a style. -/
def ofDigits (f : Format) (style : Nat) (n : Int) : Text :=
  let (base, mark) := base style
  let digits : Text := (Nat.toDigits base n.natAbs).map Char.toNat
  let mark := if f.alternate then mark else []
  if style = letter 'X' then f.placeNumber (n < 0) mark.toAsciiUpper (Text.toAsciiUpper digits) []
  else f.placeNumber (n < 0) mark digits []

def ofWhole (family : Family) (f : Format) (n : Int) : Except FillFault Text :=
  let style := f.style.getD (letter 'd')
  if !wholeStyles.contains style then
    if !numberStyles.contains style then unknownStyle family style
    else match Binary64.ofInt? n with
      | some x => ofNumber family f x
      | none => .error .tooLarge
  else if f.precision.isSome then malformed "Precision not allowed in integer format specifier"
  else if f.unsignedZero then
    malformed "Negative zero coercion (z) not allowed in integer format specifier"
  else if style = letter 'c' then f.ofCodePoint n
  else .ok (f.ofDigits style n)

end Format

/-- The name of the type of a value. -/
def typeName : Json → Text
  | .null => "NoneType"
  | .bool _ => "bool"
  | .int _ => "int"
  | .float _ => "float"
  | .string _ => "str"
  | .array _ => "list"
  | .object _ => "dict"

/-- A value in the format that a text gives. -/
def formatted (given : Text) (v : Json) : Except FillFault Text :=
  if given.isEmpty then .ok v.plain
  else match v with
    | .string t => do (← Format.read .text given).ofText t
    | .int n => do Format.ofWhole .whole (← Format.read .whole given) n
    | .bool b => do Format.ofWhole .flag (← Format.read .flag given) (if b then 1 else 0)
    | .float x => do Format.ofNumber .number (← Format.read .number given) x
    | v => .error (.noFormats (typeName v))

end Log

end Wireframe
