import Wireframe.CommandLine.Flag
import Wireframe.Layout.ReadingOrder
import Wireframe.Number.Numeral

/-!
# Invocations

What the program can be asked to do on the command line: to generate the page of a document, to
preview a document's first widgets, or to generate the page of the sample form. How rows are
grouped may be chosen before the task is named.
-/
namespace Wireframe

namespace CommandLine

/-- What the program is asked to do; without an output path the result is printed. -/
inductive Task where
  | generate (input : Text) (pageName output : Choice Text)
  | preview (input : Text) (limit : Choice Int)
  | demo (pageName output : Choice Text)
  deriving DecidableEq

structure Invocation where
  strategy : Choice Text
  rowThreshold : Choice Binary64
  task : Task
  deriving DecidableEq

/-- The paths that a task names. -/
def Task.paths : Task → List Text
  | .generate input _ output => input :: output.value?.toList
  | .preview input _ => [input]
  | .demo _ output => output.value?.toList

/-! ## Flags of the program and its tasks -/

/-- What may be chosen about rows. -/
structure RowChoice where
  strategy : Choice Text := .absent
  rowThreshold : Choice Binary64 := .absent
  deriving DecidableEq

/-- What may be chosen about a page. -/
structure PageChoice where
  pageName : Choice Text := .absent
  output : Choice Text := .absent
  deriving DecidableEq

/-- What may be chosen about a preview. -/
structure PreviewChoice where
  limit : Choice Int := .absent
  deriving DecidableEq

/-- The name of a strategy, if there is one of that name. -/
def strategyName? (given : Text) : Option Text :=
  [RowStrategy.drifting.name, RowStrategy.anchored.name].find? (· = given)

/-- Of a flag that is repeated the last value counts. -/
def rowFlags : List (Flag RowChoice) :=
  [.help,
    .choice ["--strategy"] strategyName? fun strategy chosen => { chosen with strategy },
    .choice ["--row-threshold"] Numeral.readTypedFloat? fun rowThreshold chosen =>
      { chosen with rowThreshold }]

def pageFlags : List (Flag PageChoice) :=
  [.help,
    .choice ["--page-name"] some fun pageName chosen => { chosen with pageName },
    .choice ["--output", "-o"] some fun output chosen => { chosen with output }]

def previewFlags : List (Flag PreviewChoice) :=
  [.help, .choice ["--limit"] Numeral.readTypedWhole? fun limit chosen => { chosen with limit }]

/-! ## Reading -/

/-- The task of a name and the arguments after it. -/
def Task.read (name : Text) (args : List Text) : Reading Task := do
  if name = Text.ofString "generate" then
    match ← (← CommandLine.read pageFlags .one {} args).whole with
    | (chosen, [input]) => return .generate input chosen.pageName chosen.output
    | _ => .misuse
  else if name = Text.ofString "preview" then
    match ← (← CommandLine.read previewFlags .one {} args).whole with
    | (chosen, [input]) => return .preview input chosen.limit
    | _ => .misuse
  else if name = Text.ofString "demo" then
    let (chosen, _) ← (← CommandLine.read pageFlags .none {} args).whole
    return .demo chosen.pageName chosen.output
  else .misuse

/-- The invocation that the arguments of the program make. -/
def Invocation.read (args : List Text) : Reading Invocation := do
  let given ← CommandLine.read rowFlags .oneAndRest {} args
  match given.operands with
  | [] => .misuse
  | name :: rest =>
    let task ← Task.read name rest
    let (chosen, _) ← given.whole
    return ⟨chosen.strategy, chosen.rowThreshold, task⟩

end CommandLine

end Wireframe
