import Wireframe.FileTree.Basic

/-!
# Paths

A path is a text of names between slashes. It starts at the root if its first code point is a
slash, and else at the directory from which the tree is seen. An empty name and a single dot stay
where they are, two dots go up. Two texts with the same octets are one name.

A path can be followed in two ways. `locate` looks at the names alone. `resolve` looks at the tree
too: it only leaves directories, so that the path of a file with a slash at its end leads nowhere.
-/
namespace Wireframe

namespace FileTree

/-- Why something cannot be done with a path. -/
inductive AccessError where
  | missing
  | notDirectory
  | isDirectory
  | alreadyThere
  | nameTooLong
  deriving DecidableEq, Repr

/-- The names of a path. -/
def segments (path : Text) : List Text := (Text.splitOn slash path).map Utf8.asRead

/-- Where a path starts. -/
def start (t : FileTree) (path : Text) : Location :=
  if path.head? = some slash then [] else t.here

/-- The location that one name of a path leads to. -/
def follow (l : Location) (segment : Text) : Location :=
  if segment = [] || segment = Text.ofString "." then l
  else if segment = upward then l.dropLast
  else l ++ [segment]

/-- The location of a path, whatever stands in the tree. -/
def locate (t : FileTree) (path : Text) : Location :=
  (segments path).foldl follow (t.start path)

/-- The locations that names lead through, from a location on. -/
def stops (l : Location) : List Text → List Location
  | [] => [l]
  | segment :: rest => l :: stops (follow l segment) rest

/-- Whether a text takes more than so many octets. -/
def isLonger (most : Nat) (t : Text) : Bool :=
  (Utf8.encodePath t).any fun octets => most < octets.length

/-- Names have at most 255 octets. -/
def isNameTooLong (name : Text) : Bool := isLonger 255 name

/-- Paths have at most 4095 octets. -/
def isPathTooLong (path : Text) : Bool := isLonger 4095 path

/-- Follows names from a location. -/
def walk (t : FileTree) (l : Location) : List Text → Except AccessError Location
  | [] => .ok l
  | segment :: rest => match t.node? l with
    | none => .error .missing
    | some (.file _) => .error .notDirectory
    | some .directory =>
      if isNameTooLong segment then .error .nameTooLong else walk t (follow l segment) rest

/-- The location of a path; nothing need stand there, but it lies in a directory. -/
def resolve (t : FileTree) (path : Text) : Except AccessError Location :=
  if path.isEmpty then .error .missing
  else if isPathTooLong path then .error .nameTooLong
  else walk t (t.start path) (segments path)

/-- The path of the directory that a path lies in; empty if the path is a single name. -/
def directoryPath (path : Text) : Text :=
  let upTo := (path.reverse.dropWhile (· ≠ slash)).reverse
  let trimmed := Text.trimEndBy (· = slash) upTo
  if trimmed.isEmpty then upTo else trimmed

/-- The path of a name in a directory. -/
def pathIn (directory name : Text) : Text :=
  if directory.isEmpty || directory.getLast? = some slash then directory ++ name
  else directory ++ slash :: name

end FileTree

end Wireframe
