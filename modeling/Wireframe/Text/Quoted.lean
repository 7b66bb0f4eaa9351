import Wireframe.Text.Digits
import Wireframe.Text.PrintableTable

/-!
# Texts shown in messages

A text that a message quotes stands between single quotes, or between double quotes when it holds
a single quote and no double one. The quote, the backslash and every unprintable code point are
escaped: line feed, carriage return and tab by their letters, the others by their number in two,
four or eight hexadecimal digits.
-/
namespace Wireframe

def CodePoint.isPrintable (c : Nat) : Bool :=
  if c < 0x7F then 0x20 ≤ c else !within unprintableRanges c

namespace Text

def singleQuote : Nat := 0x27
def doubleQuote : Nat := 0x22
def backslash : Nat := 0x5C

/-- The escape of a code point by its number. -/
def numberedEscape (c : Nat) : Text :=
  if c < 0x100 then "\\x" ++ paddedHex 2 c
  else if c < 0x10000 then "\\u" ++ paddedHex 4 c
  else "\\U" ++ paddedHex 8 c

/-- How a code point stands between two `quote`s. -/
def shownCodePoint (quote c : Nat) : Text :=
  if c = quote || c = backslash then [backslash, c]
  else if c = CodePoint.lineFeed then "\\n"
  else if c = CodePoint.carriageReturn then "\\r"
  else if c = CodePoint.tab then "\\t"
  else if CodePoint.isPrintable c then [c]
  else numberedEscape c

/-- The text between quotes, as messages show it. -/
def quoted (t : Text) : Text :=
  let quote :=
    if t.contains singleQuote && !t.contains doubleQuote then doubleQuote else singleQuote
  [quote] ++ t.flatMap (shownCodePoint quote) ++ [quote]

/-- The text with an escape for every code point beyond ASCII. -/
def inAscii (t : Text) : Text := t.flatMap fun c => if c < 0x80 then [c] else numberedEscape c

end Text

end Wireframe
