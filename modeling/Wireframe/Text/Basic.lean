/-!
# Text

A text is the list of its Unicode code points. A code point is any number up to `0x10FFFF`; the
surrogates `0xD800` to `0xDFFF` may stand in a text one by one, which no `String` can hold: they
come in through the escapes of a JSON document and leave only as escapes, and in a path some of them
stand for octets.

Texts are ordered by their first difference in code points, a proper initial part coming first.
-/
namespace Wireframe

abbrev Text := List Nat

namespace CodePoint

def lineFeed : Nat := 0x0A
def carriageReturn : Nat := 0x0D
def tab : Nat := 0x09
def space : Nat := 0x20

def isDigit (c : Nat) : Bool := 0x30 ≤ c && c ≤ 0x39

def isUpper (c : Nat) : Bool := 0x41 ≤ c && c ≤ 0x5A

def isLower (c : Nat) : Bool := 0x61 ≤ c && c ≤ 0x7A

/-- A letter of ASCII. -/
def isLetter (c : Nat) : Bool := isUpper c || isLower c

/-- A letter or digit of ASCII. -/
def isAlphanumeric (c : Nat) : Bool := isLetter c || isDigit c

def isHighSurrogate (c : Nat) : Bool := 0xD800 ≤ c && c ≤ 0xDBFF

def isLowSurrogate (c : Nat) : Bool := 0xDC00 ≤ c && c ≤ 0xDFFF

def isSurrogate (c : Nat) : Bool := 0xD800 ≤ c && c ≤ 0xDFFF

/-- A surrogate that stands in a path for an octet that is part of no code point. -/
def isStrayOctet (c : Nat) : Bool := 0xDC80 ≤ c && c ≤ 0xDCFF

/-- A surrogate that stands for nothing in a path either. -/
def isBarredFromPaths (c : Nat) : Bool := isSurrogate c && !isStrayOctet c

/-- Folds the letters of ASCII only. -/
def toAsciiLower (c : Nat) : Nat := if isUpper c then c + 0x20 else c

def toAsciiUpper (c : Nat) : Nat := if isLower c then c - 0x20 else c

/-- Whether `c` lies in one of the ranges, each given by its first and last code point. -/
def within (ranges : List (Nat × Nat)) (c : Nat) : Bool :=
  ranges.any fun (first, last) => first ≤ c && c ≤ last

end CodePoint

namespace Text

def ofString (s : String) : Text := s.toList.map Char.toNat

instance : Coe String Text := ⟨ofString⟩

/-- For output: a code point that no `Char` can hold becomes the replacement character. -/
def toString (t : Text) : String :=
  String.ofList <| t.map fun c =>
    if CodePoint.isSurrogate c || 0x10FFFF < c then '\uFFFD' else Char.ofNat c

/-- The texts one after another. -/
def concat (ts : List Text) : Text := ts.flatten

/-- The texts one after another with `separator` between neighbours. -/
def join (separator : Text) : List Text → Text
  | [] => []
  | [t] => t
  | t :: rest => t ++ separator ++ join separator rest

/-- Whether `part` stands somewhere in the text. -/
def occursIn (part : Text) : Text → Bool
  | [] => part.isEmpty
  | c :: rest => part.isPrefixOf (c :: rest) || occursIn part rest

/-- `first` as the head of the first text; a new text when there is none. -/
def consHead (first : Nat) : List Text → List Text
  | [] => [[first]]
  | t :: rest => (first :: t) :: rest

/-- The parts between the occurrences of `separator`; always one more than there are separators. -/
def splitOn (separator : Nat) : Text → List Text
  | [] => [[]]
  | c :: rest =>
    if c = separator then [] :: splitOn separator rest else consHead c (splitOn separator rest)

/-- The text up to the first `separator`, and what follows it if there is one. -/
def cut (separator : Nat) : Text → Text × Option Text
  | [] => ([], none)
  | c :: rest =>
    if c = separator then ([], some rest)
    else ((c :: (cut separator rest).1), (cut separator rest).2)

def replace (old new : Nat) (t : Text) : Text := t.map fun c => if c = old then new else c

/-- Without the code points at either end that satisfy `p`. -/
def trimBy (p : Nat → Bool) (t : Text) : Text :=
  ((t.dropWhile p).reverse.dropWhile p).reverse

/-- Without the code points at the end that satisfy `p`. -/
def trimEndBy (p : Nat → Bool) (t : Text) : Text := (t.reverse.dropWhile p).reverse

def toAsciiLower (t : Text) : Text := t.map CodePoint.toAsciiLower

def toAsciiUpper (t : Text) : Text := t.map CodePoint.toAsciiUpper

/-- The order by code points. -/
def le (a b : Text) : Bool := (compare a b).isLE

theorem splitOn_ne_nil (separator : Nat) (t : Text) : splitOn separator t ≠ [] := by
  cases t with
  | nil => simp [splitOn]
  | cons c rest =>
    simp only [splitOn]
    split
    · simp
    · cases splitOn separator rest <;> simp [consHead]

theorem consHead_flatten (c : Nat) (ts : List Text) :
    (consHead c ts).flatten = c :: ts.flatten := by
  cases ts <;> simp [consHead]

end Text

end Wireframe
