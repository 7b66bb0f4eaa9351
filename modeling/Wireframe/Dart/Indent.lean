import Wireframe.Text.Lines

/-!
# Indentation of Dart source

A level is two spaces before every line that is not blank.
-/
namespace Wireframe

namespace Dart

/-- The spaces of `levels` levels. -/
def indentation (levels : Nat) : Text := List.replicate (2 * levels) CodePoint.space

/-- A line moved to the right, unless it is blank. -/
def indentLine (levels : Nat) (line : Text) : Text :=
  if line.isBlank then line else indentation levels ++ line

/-- The source moved `levels` levels to the right. -/
def indent (levels : Nat) (code : Text) : Text := (code.lines.map (indentLine levels)).flatten

/-- The items of a list in source, each on lines of its own and followed by a comma. -/
def listEntries (levels : Nat) (items : List Text) : Text :=
  .join "\n" (items.map fun item => .concat [indent levels item, ","])

/-- The source with all but its first line moved to the right, so that it can follow the name of
an argument. -/
def hangingIndent (levels : Nat) (code : Text) : Text :=
  match code.cut CodePoint.lineFeed with
  | (first, some (c :: rest)) => .concat [first, "\n", indent levels (c :: rest)]
  | (first, _) => first

end Dart

end Wireframe
