import Std.Time.Format
import Wireframe.CommandLine.Run
import Wireframe.Log.Channel
import Wireframe.Settings.Sources

/-!
# The program

Reads what a run needs to know from the disk and the environment, and carries out what the run
came to: files are written, the result is printed, and entries go to the console and to log files.
-/
namespace Wireframe

namespace Program

/-! ## What a run needs to know -/

/-- A location as a path of the disk. -/
def diskPath (l : Location) : String := "/" ++ (FileTree.pathOf l).toString

/-- What stands at a location; what cannot be read as a file counts as a directory. -/
def look (l : Location) : IO (Option Node) := do
  try
    return some (.file (← IO.FS.readBinFile (diskPath l)).toList)
  catch e => match e with
    | .noFileOrDirectory .. => return none
    | _ => return some .directory

/-- The tree with what stands at a location and above it; below a file there is nothing. -/
def explore (tree : FileTree) (l : Location) : IO FileTree := do
  let mut tree := tree
  for i in [0:l.length] do
    let here := l.take (i + 1)
    if tree.isDirectory (l.take i) && (tree.node? here).isNone then
      if let some node ← look here then tree := tree.put here node
  return tree

/-- The part of the disk that the paths lead through, seen from the working directory. -/
def survey (paths : List Text) : IO FileTree := do
  let directory := toString (← IO.currentDir)
  let here := (FileTree.segments (Text.ofString directory)).filter (!·.isEmpty)
  let mut tree ← explore ⟨[], here⟩ here
  for path in paths do
    for l in FileTree.stops (tree.start path) (FileTree.segments path) do
      tree ← explore tree l
    tree ← explore tree (tree.locate path)
  return tree

/-- The variables of the environment that name a setting. -/
def environment : IO (List Binding) :=
  Settings.names.filterMapM fun name => do
    let name := Settings.variableName name
    return (← IO.getEnv name.toString).map fun value => ⟨name, some (Text.ofString value)⟩

/-- The bindings of the file `.env`, if there is one. -/
def bindingsOfFile : IO (List Binding) := do
  match ← (IO.FS.readBinFile ".env").toBaseIO with
  | .ok content => return ((Utf8.decode content.toList).map Binding.readAll).getD []
  | .error _ => return []

/-! ## What a run came to -/

/-- Makes the disk agree with the second tree where it differs from the first. -/
def apply (before after : FileTree) : IO Unit :=
  for (l, node) in after.entries do
    if before.node? l ≠ some node then
      match node with
      | .directory => IO.FS.createDir (diskPath l)
      | .file content => IO.FS.writeBinFile (diskPath l) ⟨content.toArray⟩

def line (e : Log.Entry) : String := e.level.name.toString ++ " | " ++ e.message.toString

/-- Passes entries to the console and the files of a channel. -/
def report (channel : Log.Channel) (entries : List Log.Entry) : IO Unit := do
  for e in channel.console entries do
    IO.eprintln (line e)
  for (path, kept) in channel.files entries do
    let directory := FileTree.directoryPath path
    if !directory.isEmpty then IO.FS.createDirAll directory.toString
    let file ← IO.FS.Handle.mk path.toString .append
    for e in kept do
      file.putStrLn (line e)

/-- Carries out what a run came to. -/
def conclude (channel : Log.Channel) (before : FileTree) (outcome : CommandLine.Outcome) :
    IO UInt32 := do
  match ← (apply before outcome.tree).toBaseIO with
  | .error e =>
    report channel [Log.entry .error (Text.ofString (toString e))]
    return 1
  | .ok _ =>
    report channel outcome.entries
    IO.print outcome.output.toString
    match outcome.ending with
    | .exit status => return status.toUInt32
    | .crash fault =>
      IO.eprintln fault.message.toString
      return 1

/-- How the program is called. -/
def usage : String :=
  "usage: devsketch [--strategy drifting|anchored] [--row-threshold NUMBER]\n" ++
  "                 generate INPUT [--page-name NAME] [--output PATH]\n" ++
  "                 | preview INPUT [--limit COUNT]\n" ++
  "                 | demo [--page-name NAME] [--output PATH]"

/-- A run with settings that could be read. -/
def runWith (settings : Settings) (channel : Log.Channel) (args : List Text) : IO UInt32 := do
  let paths ← match CommandLine.Invocation.read args with
    | .read invocation => pure invocation.task.paths
    | .help => do IO.println usage; pure []
    | .misuse => do IO.eprintln usage; pure []
  let tree ← survey paths
  conclude channel tree (CommandLine.run Json.nestingLimit settings args tree)

/-- Reports settings that cannot be read. -/
def refuse (errors : List FieldError) : IO UInt32 := do
  for e in errors do
    let place := e.location.map fun
      | .field name => name
      | .index i => .ofNat i
    IO.eprintln ((Text.join "." place).toString ++ ": " ++ e.problem.message.toString)
  return 1

/-- A run of the program with the settings that the environment gives. -/
def start (args : List Text) : IO UInt32 := do
  match Settings.ofSources ⟨← environment, ← bindingsOfFile, []⟩ with
  | .refused errors => refuse errors
  | .accepted settings =>
    let day := Text.ofString (toString (← Std.Time.PlainDate.now))
    match Log.Channel.build settings Log.programName day with
    | .ok channel => runWith settings channel args
    | .error fault =>
      IO.eprintln fault.message.toString
      return 1

end Program

end Wireframe

def main (args : List String) : IO UInt32 :=
  Wireframe.Program.start (args.map Wireframe.Text.ofString)
