import Wireframe.FileTree.Access
import Wireframe.Json.Reader
import Wireframe.Log.Basic

/-!
# Storage

Documents are loaded from a file tree and sources are saved in it, and both are logged. A source
ends in a line feed in its file. When saving fails, directories that were made for the file stay,
and a text that cannot be encoded leaves the file empty.

What the system or the reader says of a failure is not part of the entry that is logged about it;
there it follows the path, after a colon.
-/
namespace Wireframe

namespace Storage

/-! ## Paths -/

/-- What makes a text no path at all. -/
def pathFault? (path : Text) : Option Fault :=
  match Utf8.surrogateRun? CodePoint.isBarredFromPaths path with
  | some (first, last) => some (.unencodable path first last)
  | none => if path.contains 0 then some .nullInPath else none

/-! ## Loading -/

def notLoaded (path : Text) : Log.Entry :=
  Log.entry .error (.concat ["Failed to load JSON from ", path])

/-- The value of the JSON file at a path, if it has one, and what is logged about it. A file whose
brackets are nested deeper than `nesting` is no failure to load but a fault, and nothing is logged.
-/
def load (nesting : Nat) (t : FileTree) (path : Text) :
    Except Fault (Option Json) × List Log.Entry :=
  if (pathFault? path).isSome || !t.contains path then
    (.ok none, [Log.entry .warning (.concat ["JSON file not found: ", path])])
  else match t.read path with
    | .error _ => (.ok none, [notLoaded path])
    | .ok content => match Json.readOctets nesting content with
      | .ok v => (.ok (some v), [Log.entry .debug (.concat ["Data loaded from ", path])])
      | .error .malformed => (.ok none, [notLoaded path])
      | .error (.tooDeep holder) => (.error (.tooDeep holder), [])

/-! ## Saving -/

/-- The outcome of saving: the tree afterwards, whether the text was saved, and what is logged. -/
structure Saved where
  tree : FileTree
  result : Except Fault Bool
  entries : List Log.Entry

/-- With a line feed at the end, one more only if there is none. -/
def lineEnded (source : Text) : Text :=
  if source.getLast? = some CodePoint.lineFeed then source else source ++ [CodePoint.lineFeed]

/-- What the encoding of a text yields; the fault is the first run of surrogates. -/
def encode (source : Text) : Except Fault Octets :=
  match Utf8.encode source with
  | some octets => .ok octets
  | none =>
    let (first, last) := (Utf8.surrogateRun? CodePoint.isSurrogate source).getD (0, 0)
    .error (.unencodable source first last)

def failed (t : FileTree) (path : Text) : Saved :=
  ⟨t, .ok false, [Log.entry .error (.concat ["Failed to save source to ", path])]⟩

/-- Writes a text to a file in a directory that is there. -/
def saveFile (t : FileTree) (source path : Text) : Saved :=
  match pathFault? path with
  | some fault => ⟨t, .error fault, []⟩
  | none => match encode (lineEnded source) with
    | .ok octets => match t.write path octets with
      | .ok t => ⟨t, .ok true, [Log.entry .debug (.concat ["Source saved to ", path])]⟩
      | .error _ => failed t path
    | .error fault => match t.write path [] with
      | .ok t => ⟨t, .error fault, []⟩
      | .error _ => failed t path

/-- Saves a text at a path, in a directory that is made if it is missing. -/
def save (t : FileTree) (source path : Text) : Saved :=
  let directory := FileTree.directoryPath path
  if directory.isEmpty then saveFile t source path
  else match pathFault? directory with
    | some fault => ⟨t, .error fault, []⟩
    | none => match t.provideDirectory directory with
      | (t, .ok _) => saveFile t source path
      | (t, .error _) => failed t path

end Storage

end Wireframe
