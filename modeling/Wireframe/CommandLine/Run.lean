import Wireframe.CommandLine.Invocation
import Wireframe.Document.Basic
import Wireframe.Element.Sample
import Wireframe.Page.Generator
import Wireframe.Storage

/-!
# Running the program

What a run does: how it ends, what it prints, what is in the file tree afterwards and what it
logs. A task that fails is logged as an error and ends with status 1; arguments that make no sense
end the run with status 2 before anything is done.

A run starts when the settings have been read and the channel of the log stands: what can be wrong
with them is no part of it (`Settings.ofSources`, `Log.Channel.build`). Log files are not in its
tree, and what it prints is taken in whole. The interpreter comes in with two of its limits, the
brackets that it can have open at once in a document (`nesting`) and the digits of a gap.
-/
namespace Wireframe

namespace CommandLine

/-- How a run ends. -/
inductive Ending where
  | exit (status : Nat)
  /-- A fault that the program does not expect. -/
  | crash (fault : Fault)

structure Outcome where
  ending : Ending
  output : Text
  tree : FileTree
  entries : List Log.Entry

namespace Outcome

/-- The outcome with what was logged before it. -/
def after (entries : List Log.Entry) (o : Outcome) : Outcome :=
  { o with entries := entries ++ o.entries }

/-- A run that ends without doing anything. -/
def idle (status : Nat) (tree : FileTree) : Outcome := ⟨.exit status, [], tree, []⟩

/-- Whether a fault is one that the program reports. -/
def isExpected : Fault → Bool
  | .wholeTooLarge | .tooDeep _ | .valueless _ => false
  | _ => true

/-- A run that a fault ends. -/
def failing (fault : Fault) (tree : FileTree) : Outcome :=
  if isExpected fault then ⟨.exit 1, [], tree, [Log.entry .error fault.message]⟩
  else ⟨.crash fault, [], tree, []⟩

/-- Goes on with the value of a step, or fails. -/
def proceed {α : Type} (step : Except Fault α) (tree : FileTree) (next : α → Outcome) : Outcome :=
  match step with
  | .ok a => next a
  | .error fault => failing fault tree

end Outcome

open Outcome

/-! ## Steps -/

/-- Prints a source, or saves it if there is a path for it. -/
def deliver (source : Text) (output : Choice Text) (tree : FileTree) : Outcome :=
  match output with
  | .absent => ⟨.exit 0, source ++ [CodePoint.lineFeed], tree, []⟩
  | .void => failing (.valueless .output) tree
  | .value path =>
    let saved := Storage.save tree source path
    after saved.entries <| proceed saved.result saved.tree fun
      | true => ⟨.exit 0, [], saved.tree, [Log.entry .success (.concat ["Wrote ", path])]⟩
      | false => idle 1 saved.tree

/-- The document of the value that a file has, if it has one. -/
def documentOf (path : Text) : Option Json → Except Fault Document
  | none | some .null => .error (.unreadableDocument path)
  | some v => Document.parse v (some path)

/-- The document at a path, and what is logged about loading it. -/
def loadDocument (nesting : Nat) (path : Text) (tree : FileTree) :
    Except Fault Document × List Log.Entry :=
  let (value, entries) := Storage.load nesting tree path
  (value.bind (documentOf path), entries)

/-- Loads a document and goes on with it and its detections. -/
def withDocument (nesting : Nat) (settings : Settings) (path : Text) (tree : FileTree)
    (next : Document → List Detection → Outcome) : Outcome :=
  let (document, entries) := loadDocument nesting path tree
  after entries <| proceed document tree fun document =>
    proceed (document.detections settings.minConfidence) tree fun detections =>
      after (document.dropEntries settings.minConfidence) (next document detections)

/-- What is logged about a page that a document gave. -/
def generatedEntry (page : Page) : Log.Entry :=
  Log.entry .info (.concat ["Generated ", page.name, ": ", .ofNat page.detectionCount, " widgets, ",
    .ofNat page.lineCount, " lines"])

/-- The name that is chosen for the page of a document: it is left to the document if none is. -/
def documentPageName (chosen : Choice Text) (document : Document) : Option Text :=
  match chosen with
  | .value (c :: rest) => some (c :: rest)
  | _ => document.pageName

/-- The name of the sample form's page, if none is chosen. -/
def sampleName : Text := "LoginPage"

/-- The name that is chosen for the page of the sample form. -/
def samplePageName : Choice Text → Option Text
  | .absent => some sampleName
  | .void => none
  | .value name => some name

/-- The page of detections. Where there are several, the threshold between rows needs a value. -/
def generatePage (settings : Settings) (threshold : Choice Binary64) (generator : Generator)
    (detections : List Detection) (name : Option Text) : Except Fault Page :=
  if threshold = .void ∧ 1 < detections.length then .error (.valueless .rowThreshold)
  else generator.generateUnder settings detections name

/-- The widgets of the first detections, up to the limit that is chosen. -/
def generatePreview (limit : Choice Int) (generator : Generator) (detections : List Detection) :
    Except Fault Text :=
  if limit = .void then .error (.valueless .limit)
  else generator.preview detections limit.value?

/-! ## Runs -/

/-- Does the task of an invocation with a generator. -/
def performWith (nesting : Nat) (settings : Settings) (generator : Generator)
    (threshold : Choice Binary64) (tree : FileTree) : Task → Outcome
  | .demo pageName output =>
    proceed (generatePage settings threshold generator loginForm (samplePageName pageName)) tree
      fun page => after [page.logEntry] (deliver page.source output tree)
  | .preview input limit => withDocument nesting settings input tree fun _ detections =>
    proceed (generatePreview limit generator detections) tree
      fun source => deliver source .absent tree
  | .generate input pageName output =>
    withDocument nesting settings input tree fun document detections =>
      let name := documentPageName pageName document
      proceed (generatePage settings threshold generator detections name) tree
        fun page => after [page.logEntry, generatedEntry page] (deliver page.source output tree)

/-- The generator that an invocation asks for. -/
def generatorOf (settings : Settings) (invocation : Invocation) : Except Fault Generator :=
  if invocation.strategy = .void then .error (.valueless .strategy)
  else Generator.build settings
    { rowThreshold := invocation.rowThreshold.value?, rowStrategy := invocation.strategy.value? }

/-- Does what an invocation asks for. -/
def perform (nesting : Nat) (settings : Settings) (invocation : Invocation) (tree : FileTree) :
    Outcome :=
  proceed (generatorOf settings invocation) tree fun generator =>
    performWith nesting settings generator invocation.rowThreshold tree invocation.task

/-- A run of the program with the given arguments. -/
def run (nesting : Nat) (settings : Settings) (args : List Text) (tree : FileTree) : Outcome :=
  match Invocation.read args with
  | .read invocation => perform nesting settings invocation tree
  | .help => idle 0 tree
  | .misuse => idle 2 tree

end CommandLine

end Wireframe
