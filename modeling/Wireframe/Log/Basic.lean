import Wireframe.Fault

/-!
# Log entries

An entry has a level and a message; the name of the log stands in brackets before the message.
-/
namespace Wireframe

namespace Log

/-- The levels from the least to the most severe. -/
inductive Level where
  | trace
  | debug
  | info
  | success
  | warning
  | error
  | critical
  deriving DecidableEq, Repr

namespace Level

def all : List Level := [trace, debug, info, success, warning, error, critical]

def name : Level → Text
  | trace => "TRACE"
  | debug => "DEBUG"
  | info => "INFO"
  | success => "SUCCESS"
  | warning => "WARNING"
  | error => "ERROR"
  | critical => "CRITICAL"

/-- The place in the order of severity. -/
def severity : Level → Nat
  | trace => 0
  | debug => 1
  | info => 2
  | success => 3
  | warning => 4
  | error => 5
  | critical => 6

/-- The level of exactly that name. -/
def parse (given : Text) : Except Fault Level :=
  match all.find? fun level => level.name = given with
  | some level => .ok level
  | none => .error (.unknownLevel given)

end Level

structure Entry where
  level : Level
  message : Text
  deriving DecidableEq

/-- The name of the program's own log. -/
def programName : Text := "DevSketch"

/-- A message under the name of its log. -/
def under (name message : Text) : Text := .concat ["[", name, "] ", message]

/-- An entry of the program's own log. -/
def entry (level : Level) (message : Text) : Entry := ⟨level, under programName message⟩

/-- What is logged about a page that was made. -/
def generationMessage (pageName detections rows lines : Text) : Text :=
  .concat ["GENERATION: ", pageName, " | detections=", detections, " rows=", rows, " lines=", lines]

/-- What is logged about the time that an operation took. -/
def performanceMessage (operation : Text) (milliseconds : Binary64) : Text :=
  .concat ["PERFORMANCE: ", operation, " took ", milliseconds.twoPlaces, "ms"]

end Log

end Wireframe
