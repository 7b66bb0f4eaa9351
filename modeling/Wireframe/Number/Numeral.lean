import Wireframe.Number.Decimal
import Wireframe.Text.Blank
import Wireframe.Text.DigitTable

/-!
# Numerals in texts

How a number is read from a text. Two writings are accepted. A typed numeral may have white space
around it and underscores between its digits, which may be of any script. A stored one has ASCII
digits; it may have white space around it or underscores in it, though a floating-point number not
both.

Main statement: `readStoredWhole_of_canonical`, a stored whole number in canonical form is what it
says.
-/
namespace Wireframe

namespace Numeral

def underscore : Nat := 0x5F
def point : Nat := 0x2E
def plus : Nat := 0x2B
def minus : Nat := 0x2D
def zero : Nat := 0x30

/-- At most this many digits make a whole number. -/
def digitLimit : Nat := 4300

/-- The least whole number that has more digits. -/
def writableLimit : Nat := Nat.pow 10 digitLimit

-- The bound is too great to be worked out wherever the definition could be unfolded.
/-- Whether a whole number has no more digits than can be written; its sign does not count. -/
@[irreducible] def isWritable (n : Int) : Bool := n.natAbs < writableLimit

/-! ## Parts of a numeral -/

def trim (t : Text) : Text := t.trimBy CodePoint.isWhiteSpace

def dropUnderscores (t : Text) : Text := t.filter (· ≠ underscore)

/-- The sign of a numeral, positive where none is written, and what follows it. -/
def sign : Text → Bool × Text
  | c :: rest =>
    if c = minus then (true, rest) else if c = plus then (false, rest) else (false, c :: rest)
  | [] => (false, [])

/-- The digits at the start of a text, and what follows them. -/
def digits (t : Text) : Text × Text :=
  (t.takeWhile CodePoint.isDigit, t.dropWhile CodePoint.isDigit)

/-- The fraction at the start of a text, without its point, and what follows it. -/
def fraction : Text → Text × Text
  | c :: rest => if c = point then digits rest else ([], c :: rest)
  | [] => ([], [])

/-- The exponent that makes up the whole text; `0` for the empty text. -/
def exponent? : Text → Option Int
  | [] => some 0
  | c :: rest =>
    if c = 0x65 || c = 0x45 then
      let (negative, rest) := sign rest
      let (ds, rest) := digits rest
      if ds.isEmpty || !rest.isEmpty then none
      else
        let value : Int := Text.digitsValue ds
        some (if negative then -value else value)
    else none

/-! ## Floating-point numbers -/

/-- The number of an unsigned numeral: digits, a point and an exponent, at least one digit before
or after the point. -/
def unsigned? (negative : Bool) (t : Text) : Option Binary64 :=
  let (whole, rest) := digits t
  let (part, rest) := fraction rest
  if whole.isEmpty && part.isEmpty then none
  else do
    let exponent ← exponent? rest
    return .ofDecimal negative (Text.digitsValue (whole ++ part)) (exponent - part.length)

/-- The names of what is no finite number, in any case. -/
def named? (negative : Bool) (t : Text) : Option Binary64 :=
  let t := t.toAsciiLower
  if t = Text.ofString "inf" || t = Text.ofString "infinity" then some (.infinite negative)
  else if t = Text.ofString "nan" then some .nan
  else none

/-- The floating-point number that a text is, without white space or underscores. -/
def plainFloat? (t : Text) : Option Binary64 :=
  let (negative, body) := sign t
  named? negative body <|> unsigned? negative body

/-! ## Typed numerals -/

/-- Whether every underscore stands between two digits; `before` says whether a digit precedes. -/
def underscoresSeparate (before : Bool) : Text → Bool
  | [] => true
  | c :: rest =>
    if c = underscore then
      before && rest.head?.any CodePoint.isDigit && underscoresSeparate false rest
    else underscoresSeparate (CodePoint.isDigit c) rest

/-- Digits of all scripts as digits of ASCII. -/
def toAsciiDigits (t : Text) : Text :=
  t.map fun c => match CodePoint.digitValue? c with
    | some value => zero + value
    | none => c

/-- A typed numeral without white space and underscores, if those are where they may be. -/
def typed? (t : Text) : Option Text :=
  let t := toAsciiDigits (trim t)
  if underscoresSeparate false t then some (dropUnderscores t) else none

def readTypedFloat? (t : Text) : Option Binary64 := do plainFloat? (← typed? t)

/-- The typed whole number; `none` also for one with too many digits. -/
def readTypedWhole? (t : Text) : Option Int := do
  let (negative, body) := sign (← typed? t)
  if body.isEmpty || !body.all CodePoint.isDigit || digitLimit < body.length then none
  else
    let value : Int := Text.digitsValue body
    return if negative then -value else value

/-! ## Stored numerals -/

/-- A text without its underscores, if it has any, none of them at an end or beside another. -/
def withoutUnderscores? (t : Text) : Option Text :=
  if !t.contains underscore || t.head? = some underscore || t.getLast? = some underscore ||
      Text.occursIn [underscore, underscore] t then none
  else some (dropUnderscores t)

/-- The stored number: white space around it does not count, nor do underscores in a text without
white space. -/
def readStoredFloat? (t : Text) : Option Binary64 :=
  plainFloat? (trim t) <|> (withoutUnderscores? t).bind plainFloat?

/-- What a whole number is read as. -/
inductive Whole where
  | value (n : Int)
  | malformed
  | tooLong
  deriving DecidableEq, Repr

/-- The whole number in canonical form: a minus sign perhaps, then digits, the first of which is
not zero unless it is the only one. The sign counts towards the limit of digits, and a number with
too many of them is too long whatever follows. -/
def canonicalWhole (t : Text) : Whole :=
  let (negative, body) := match t with
    | c :: rest => if c = minus then (true, rest) else (false, c :: rest)
    | [] => (false, [])
  let (ds, rest) := digits body
  if ds.isEmpty || (ds.head? = some zero && ds.length ≠ 1) then .malformed
  else if digitLimit < (if negative then ds.length + 1 else ds.length) then .tooLong
  else if rest.isEmpty then
    let value : Int := Text.digitsValue ds
    .value (if negative then -value else value)
  else .malformed

/-- What is left of zeros and underscores that follow `last`, a zero or an underscore: what follows
them, but with the last of them if that is a point or nothing. -/
def afterZeros (last : Nat) : Text → Option Text
  | [] => some [last]
  | c :: rest =>
    if c = zero || c = underscore then afterZeros c rest
    else if CodePoint.isDigit c || c = minus then some (c :: rest)
    else if c = point then some (last :: c :: rest)
    else none

/-- A numeral without the zeros at its start; `none` where no digit is at the start. -/
def withoutLeadingZeros? : Text → Option Text
  | [] => none
  | c :: rest =>
    if c = zero then afterZeros c rest
    else if CodePoint.isDigit c then some (c :: rest)
    else none

/-- A numeral without a fraction of zeros. -/
def withoutZeroFraction (t : Text) : Text :=
  match Text.cut point t with
  | (whole, some part) => if !part.isEmpty && part.all (· = zero) then whole else t
  | (_, none) => t

/-- The canonical form of a whole number that is written in some other way: in white space, with a
plus sign, with zeros before it, with a fraction of zeros, or with underscores. -/
def canonical? (t : Text) : Option Text := do
  let t := trim t
  let (negative, body) := sign t
  let body ← withoutLeadingZeros? body
  let body := withoutZeroFraction body
  let body := (withoutUnderscores? body).getD body
  return if negative then minus :: body else body

/-- The stored whole number. -/
def readStoredWhole (t : Text) : Whole :=
  match canonicalWhole t with
  | .malformed => match canonical? t with
    | some t => canonicalWhole t
    | none => .malformed
  | whole => whole

theorem isWritable_iff {n : Int} : isWritable n = true ↔ n.natAbs < writableLimit := by
  unfold isWritable
  exact decide_eq_true_iff

theorem readStoredWhole_of_canonical {t : Text} {n : Int} (h : canonicalWhole t = .value n) :
    readStoredWhole t = .value n := by
  simp [readStoredWhole, h]

end Numeral

end Wireframe
