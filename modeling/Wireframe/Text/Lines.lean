import Wireframe.Text.Blank

/-!
# Lines

A line ends with one of ten code points or with the pair of carriage return and line feed,
and keeps its end. The last line may lack one; there is no empty last line.

Main statement: `lines_flatten`, nothing is lost in the division.
-/
namespace Wireframe

/-- The code points that end a line. -/
def CodePoint.isLineEnd : Nat → Bool :=
  within [(0x0A, 0x0D), (0x1C, 0x1E), (0x85, 0x85), (0x2028, 0x2029)]

namespace Text

/-- Whether the line ends after `c`, when `rest` follows: a carriage return before a line feed
leaves the end to the line feed. -/
def endsLine (c : Nat) (rest : Text) : Bool :=
  CodePoint.isLineEnd c &&
    !(c == CodePoint.carriageReturn && rest.head? == some CodePoint.lineFeed)

/-- The lines of a text, each with its end. -/
def lines : Text → List Text
  | [] => []
  | c :: rest => if endsLine c rest then [c] :: lines rest else consHead c (lines rest)

/-- As an editor counts lines: one more than there are line feeds. -/
def lineCount (t : Text) : Nat := t.count CodePoint.lineFeed + 1

theorem lines_flatten (t : Text) : t.lines.flatten = t := by
  induction t with
  | nil => rfl
  | cons c rest ih =>
    simp only [lines]
    split
    · simp [ih]
    · rw [consHead_flatten, ih]

end Text

end Wireframe
