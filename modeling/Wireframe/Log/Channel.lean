import Wireframe.Log.Message
import Wireframe.Log.Basic
import Wireframe.Settings.Basic
import Wireframe.Storage

/-!
# Where entries go

A channel is a log with a name. It passes entries of its level and above to the console, and where
files are kept, it keeps one file of all entries and one of the errors. The day is filled in where
the paths of the files ask for it, also in the name of their directory.

Main statement: `mem_console_iff`, what the console shows.
-/
namespace Wireframe

namespace Log

/-- The paths of the files of a channel. -/
structure FilePaths where
  all : Text
  errors : Text
  deriving DecidableEq

structure Channel where
  name : Text
  /-- The least level that the console shows. -/
  level : Level
  /-- Where entries are kept in files, if they are. -/
  paths : Option FilePaths
  deriving DecidableEq

/-- Something to be logged. -/
structure Call where
  level : Level
  message : Text
  /-- The values of the message's fields; without any, its braces stand for themselves. -/
  values : List (Text × Json)

namespace Channel

/-- The path of a file in a directory, with the day filled in. -/
def filePath (day directory name : Text) : Except FillFault Text := do
  let path := FileTree.pathIn directory name
  Message.check path
  let unplaced : FillFault := .malformed "Format string contains positional fields"
  Message.fill ⟨[("time", .day day)], fun _ => unplaced⟩ path

/-- Where the files are kept that the settings describe. -/
def filePaths (settings : Settings) (day : Text) : Except Fault (Option FilePaths) :=
  if !settings.logToFile then .ok none
  else match Storage.pathFault? settings.logsDir with
    | some fault => .error fault
    | none =>
      if settings.logsDir.isEmpty then .error .emptyPath
      else match filePath day settings.logsDir "devsketch_\x7btime:YYYY-MM-DD\x7d.log",
          filePath day settings.logsDir "errors_\x7btime:YYYY-MM-DD\x7d.log" with
        | .ok all, .ok errors => .ok (some ⟨all, errors⟩)
        | .error fault, _ | _, .error fault => .error (.unfilled fault)

/-- The channel that the settings describe, for one day. -/
def build (settings : Settings) (name day : Text) : Except Fault Channel := do
  return ⟨name, ← Level.parse settings.logLevel, ← filePaths settings day⟩

/-- Whether an entry of the second level passes at the first. -/
def passes (least level : Level) : Bool := least.severity ≤ level.severity

/-- Whether entries of the level go anywhere at all. -/
def takes (c : Channel) (level : Level) : Bool :=
  passes c.level level || (c.paths.isSome && passes .debug level)

/-- The entry of a call, if its level goes anywhere. -/
def entry? (c : Channel) (call : Call) : Except Fault (Option Entry) :=
  if !c.takes call.level then .ok none
  else
    let message := under c.name call.message
    if call.values.isEmpty then .ok (some ⟨call.level, message⟩)
    else
      let scope : Message.Scope :=
        ⟨call.values.map fun (name, v) => (name, .json v), .missingPosition⟩
      match Message.fill scope message with
      | .ok message => .ok (some ⟨call.level, message⟩)
      | .error fault => .error (.unfilled fault)

/-- What the console shows of the entries. -/
def console (c : Channel) (entries : List Entry) : List Entry :=
  entries.filter fun e => passes c.level e.level

/-- The paths of the files, and what they keep of the entries. -/
def files (c : Channel) (entries : List Entry) : List (Text × List Entry) :=
  match c.paths with
  | none => []
  | some paths =>
    [(paths.all, entries.filter fun e => passes .debug e.level),
      (paths.errors, entries.filter fun e => passes .error e.level)]

theorem mem_console_iff {c : Channel} {entries : List Entry} {e : Entry} :
    e ∈ c.console entries ↔ e ∈ entries ∧ c.level.severity ≤ e.level.severity := by
  simp [console, passes]

end Channel

end Log

end Wireframe
