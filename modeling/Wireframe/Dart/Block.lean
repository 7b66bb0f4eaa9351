import Wireframe.Dart.Literal

/-!
# Blocks of Dart source

Source with places to fill in is a block: a list of lines, each made of pieces of fixed source,
string literals, whole numbers and names. `Block.source` writes it out.
-/
namespace Wireframe

namespace Dart

inductive Piece where
  | code (text : String)
  | literal (text : Text)
  | number (n : Int)
  | name (text : Text)
  /-- Source that was made elsewhere. -/
  | source (text : Text)
  deriving DecidableEq

namespace Piece

def text : Piece → Text
  | code s => s
  | literal t => DartLiteral.encode t
  | number n => .ofInt n
  | name t => t
  | source t => t

end Piece

abbrev Line := List Piece

abbrev Block := List Line

instance : Coe String Piece := ⟨Piece.code⟩

instance : Coe String Line := ⟨fun s => [Piece.code s]⟩

def Line.text (line : Line) : Text := line.flatMap Piece.text

/-- The lines one below the other. -/
def Block.source (block : Block) : Text := .join "\n" (block.map Line.text)

end Dart

end Wireframe
