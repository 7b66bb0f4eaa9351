import Wireframe.Proofs.CommandLine.Failure
import Wireframe.Proofs.Document.Detections
import Wireframe.Proofs.Storage.Loading

/-!
# What runs report

A task ends in one of two ways, unless it comes to a fault that it does not expect: it exits with
status 0 and what it was asked for is written, all of it, or it exits with status 1, has logged an
error and prints nothing (`Outcome.Concludes`).

Of unexpected faults there are two (`Invocation.unexpected?`). Two dashes that are written with a
flag leave it without a value, which a task may come to use all the same. And a document may have
more brackets inside one another than can be open at once.

Main statement: `run_reports`.
-/
namespace Wireframe

open Dart

namespace Generator

/-- A page ends with the brace of its last class. -/
theorem getLast?_source_of_generate {g : Generator} {detections : List Detection}
    {given : Option Text} {page : Page} (h : g.generate detections given = .ok page) :
    page.source.getLast? = some 0x7D := by
  obtain ⟨body, -, -, rfl⟩ := generate_eq_ok_iff.1 h
  exact Block.getLast?_source (c := '\x7d') rfl

end Generator

namespace CommandLine

open Outcome

/-! ## Conclusions -/

/-- Whether an error was logged. -/
def logsError (entries : List Log.Entry) : Bool := entries.any fun entry => entry.level = .error

/-- A run that is done, with `P` of what is printed and of the tree afterwards, or that has failed
and says so. -/
inductive Outcome.Concludes (P : Text → FileTree → Prop) (o : Outcome) : Prop where
  | done (ending : o.ending = .exit 0) (entries : logsError o.entries = false)
      (result : P o.output o.tree)
  | failed (ending : o.ending = .exit 1) (entries : logsError o.entries = true)
      (output : o.output = [])

/-- A run that has come to a fault which it does not expect. It says nothing of it. -/
structure Outcome.Crashes (fault : Fault) (o : Outcome) : Prop where
  ending : o.ending = .crash fault
  entries : logsError o.entries = false
  output : o.output = []

section Steps

variable {P : Text → FileTree → Prop}

theorem Outcome.Concludes.imp {Q : Text → FileTree → Prop} {o : Outcome} (h : o.Concludes P)
    (himp : ∀ printed tree, P printed tree → Q printed tree) : o.Concludes Q := by
  cases h with
  | done ending entries result => exact .done ending entries (himp _ _ result)
  | failed ending entries output => exact .failed ending entries output

theorem concludes_failing {fault : Fault} (h : isExpected fault = true) (tree : FileTree) :
    (failing fault tree).Concludes P := by
  rw [failing, if_pos h]
  exact .failed rfl rfl rfl

theorem crashes_failing {fault : Fault} (h : isExpected fault = false) (tree : FileTree) :
    (failing fault tree).Crashes fault := by
  rw [failing, if_neg (Bool.eq_false_iff.1 h)]
  exact ⟨rfl, rfl, rfl⟩

theorem logsError_append (entries more : List Log.Entry) :
    logsError (entries ++ more) = (logsError entries || logsError more) := List.any_append

theorem logsError_after {entries : List Log.Entry} (h : logsError entries = false) (o : Outcome) :
    logsError (after entries o).entries = logsError o.entries := by
  rw [after, logsError_append, h, Bool.false_or]

theorem concludes_after {entries : List Log.Entry} (hentries : logsError entries = false)
    {o : Outcome} (h : o.Concludes P) : (after entries o).Concludes P := by
  have hlogs := logsError_after hentries o
  rcases h with ⟨hending, hlogged, hresult⟩ | ⟨hending, hlogged, houtput⟩
  · exact .done hending (hlogs.trans hlogged) hresult
  · exact .failed hending (hlogs.trans hlogged) houtput

theorem crashes_after {entries : List Log.Entry} (hentries : logsError entries = false)
    {fault : Fault} {o : Outcome} (h : o.Crashes fault) : (after entries o).Crashes fault :=
  ⟨h.ending, (logsError_after hentries o).trans h.entries, h.output⟩

/-- A failed run stays one, whatever was logged before. -/
theorem concludes_after_failing {fault : Fault} (h : isExpected fault = true)
    (entries : List Log.Entry) (tree : FileTree) :
    (after entries (failing fault tree)).Concludes P := by
  rw [failing, if_pos h]
  refine .failed rfl ?_ rfl
  rw [after, logsError_append, Bool.or_eq_true]
  exact .inr rfl

end Steps

/-! ## Saving and printing -/

theorem isExpected_of_pathFault {path : Text} {fault : Fault}
    (h : Storage.pathFault? path = some fault) : isExpected fault = true := by
  unfold Storage.pathFault? at h
  split at h
  · cases h
    rfl
  · split at h
    · cases h
      rfl
    · cases h

theorem isExpected_of_encode {source : Text} {fault : Fault}
    (h : Storage.encode source = .error fault) : isExpected fault = true := by
  unfold Storage.encode at h
  split at h
  · cases h
  · cases h
    rfl

/-- What a save says of itself: it has a good answer and no error, a bad one and an error, or a
fault to report. -/
def SaveReports (saved : Storage.Saved) : Prop :=
  (saved.result = .ok true ∧ logsError saved.entries = false) ∨
    (saved.result = .ok false ∧ logsError saved.entries = true) ∨
    ∃ fault, saved.result = .error fault ∧ isExpected fault = true

theorem saveReports_saveFile (t : FileTree) (source path : Text) :
    SaveReports (Storage.saveFile t source path) := by
  unfold Storage.saveFile
  cases hpath : Storage.pathFault? path with
  | some fault => exact .inr (.inr ⟨fault, rfl, isExpected_of_pathFault hpath⟩)
  | none =>
    cases hencode : Storage.encode (Storage.lineEnded source) with
    | ok octets =>
      dsimp only
      cases t.write path octets with
      | ok after => exact .inl ⟨rfl, rfl⟩
      | error e => exact .inr (.inl ⟨rfl, rfl⟩)
    | error fault =>
      dsimp only
      cases t.write path [] with
      | ok after => exact .inr (.inr ⟨fault, rfl, isExpected_of_encode hencode⟩)
      | error e => exact .inr (.inl ⟨rfl, rfl⟩)

theorem saveReports_save (t : FileTree) (source path : Text) :
    SaveReports (Storage.save t source path) := by
  unfold Storage.save
  dsimp only
  split
  · exact saveReports_saveFile t source path
  · cases hpath : Storage.pathFault? (FileTree.directoryPath path) with
    | some fault => exact .inr (.inr ⟨fault, rfl, isExpected_of_pathFault hpath⟩)
    | none =>
      dsimp only
      split
      · exact saveReports_saveFile _ source path
      · exact .inr (.inl ⟨rfl, rfl⟩)

/-- The complete source is printed with a line feed behind it, or it stands like that in the file
at the path of the output and nothing is printed. -/
def Delivered (source : Text) (output : Choice Text) (printed : Text) (tree : FileTree) : Prop :=
  match output with
  | .absent => printed = source ++ [CodePoint.lineFeed]
  | .void => False
  | .value path => printed = [] ∧ ∃ octets,
      Utf8.encode (source ++ [CodePoint.lineFeed]) = some octets ∧ tree.read path = .ok octets

theorem concludes_deliver {source : Text} (hend : source.getLast? ≠ some CodePoint.lineFeed)
    {output : Choice Text} (houtput : output ≠ .void) (tree : FileTree) :
    (deliver source output tree).Concludes (Delivered source output) := by
  cases output with
  | absent => exact .done rfl rfl rfl
  | void => exact absurd rfl houtput
  | value path =>
    have hended : Storage.lineEnded source = source ++ [CodePoint.lineFeed] := if_neg hend
    unfold deliver
    dsimp only
    rcases saveReports_save tree source path with
      ⟨hresult, hentries⟩ | ⟨hresult, hentries⟩ | ⟨fault, hresult, hexpected⟩
    · obtain ⟨octets, hencode, hput⟩ := Storage.filePut_save hresult
      rw [hended] at hencode
      rw [hresult]
      exact concludes_after hentries (.done rfl rfl ⟨rfl, octets, hencode, hput.read⟩)
    · rw [hresult]
      refine .failed rfl ?_ rfl
      rw [after, logsError_append, hentries, Bool.true_or]
    · rw [hresult]
      exact concludes_after_failing hexpected _ _

/-! ## Loading -/

/-- The document at a path and the detections that are kept of it; none where it is no use. -/
def documentAt (nesting : Nat) (settings : Settings) (path : Text) (tree : FileTree) :
    Option (Document × List Detection) := do
  let document ← (loadDocument nesting path tree).1.toOption
  let detections ← (document.detections settings.minConfidence).toOption
  return (document, detections)

/-- A file has a value and no error is logged, or it has none, or its brackets are too many. -/
theorem load_cases (nesting : Nat) (path : Text) (tree : FileTree) :
    (∃ v entries, Storage.load nesting tree path = (.ok (some v), entries) ∧
        logsError entries = false) ∨
      (∃ entries, Storage.load nesting tree path = (.ok none, entries)) ∨
      ∃ holder, Storage.load nesting tree path = (.error (.tooDeep holder), []) := by
  unfold Storage.load
  split
  · exact .inr (.inl ⟨_, rfl⟩)
  · split
    · exact .inr (.inl ⟨_, rfl⟩)
    · split
      · exact .inl ⟨_, _, rfl, rfl⟩
      · exact .inr (.inl ⟨_, rfl⟩)
      · exact .inr (.inr ⟨_, rfl⟩)

theorem documentOf_cases (path : Text) (v : Json) :
    (∃ document, documentOf path (some v) = .ok document ∧ document.IsValid) ∨
      ∃ fault, documentOf path (some v) = .error fault ∧ isExpected fault = true := by
  unfold documentOf
  split
  · exact .inr ⟨_, rfl, rfl⟩
  · exact .inr ⟨_, rfl, rfl⟩
  · next value _ hvalue =>
    cases hparse : Document.parse value (some path) with
    | ok document => exact .inl ⟨document, rfl, Document.isValid_of_parse hparse⟩
    | error fault =>
      refine .inr ⟨fault, rfl, ?_⟩
      unfold Document.parse at hparse
      split at hparse
      · cases hparse
      · cases hparse
        rfl

theorem logsError_dropEntries (document : Document) (minConfidence : Binary64) :
    logsError (document.dropEntries minConfidence) = false := by
  unfold Document.dropEntries
  dsimp only
  split <;> rfl

section Documents

variable (nesting : Nat) (settings : Settings) (path : Text) (tree : FileTree)
  (next : Document → List Detection → Outcome)

/-- A task goes on with its document, or it has failed and says so, or the brackets of the document
are too many for it. -/
theorem withDocument_cases :
    (∃ document detections entries,
        documentAt nesting settings path tree = some (document, detections) ∧
        fault? (Storage.load nesting tree path).1 = none ∧ logsError entries = false ∧
        withDocument nesting settings path tree next = after entries (next document detections)) ∨
      (documentAt nesting settings path tree = none ∧
        fault? (Storage.load nesting tree path).1 = none ∧
        ∀ P, (withDocument nesting settings path tree next).Concludes P) ∨
      ∃ fault, fault? (Storage.load nesting tree path).1 = some fault ∧
        (withDocument nesting settings path tree next).Crashes fault := by
  unfold withDocument documentAt loadDocument
  rcases load_cases nesting path tree with
    ⟨v, entries, hload, hentries⟩ | ⟨entries, hload⟩ | ⟨holder, hload⟩
  · simp only [hload, Except.bind]
    rcases documentOf_cases path v with ⟨document, hdocument, hvalid⟩ | ⟨fault, hfault, hexpected⟩
    · obtain ⟨detections, hdetections, -⟩ := hvalid.exists_detections settings.minConfidence
      rw [hdocument]
      refine .inl ⟨document, detections, entries ++ document.dropEntries settings.minConfidence,
        ?_, rfl, ?_, ?_⟩
      · simp [Except.toOption, hdetections]
      · rw [logsError_append, hentries, logsError_dropEntries, Bool.or_false]
      · simp [proceed, hdetections, after, List.append_assoc]
    · rw [hfault]
      exact .inr (.inl ⟨rfl, rfl, fun P => concludes_after_failing hexpected entries tree⟩)
  · simp only [hload]
    exact .inr (.inl ⟨rfl, rfl, fun P => concludes_after_failing rfl entries tree⟩)
  · simp only [hload]
    exact .inr (.inr ⟨.tooDeep holder, rfl, crashes_after rfl (crashes_failing rfl tree)⟩)

end Documents

/-! ## Tasks -/

/-- The flag without a value that the making and saving of a page comes to first. Where there is no
page it does not come to the output. -/
def pageLacks (generator : Generator) (threshold : Choice Binary64) (output : Choice Text)
    (detections : List Detection) : Option Valueless :=
  if threshold = .void ∧ 1 < detections.length then some .rowThreshold
  else if output = .void ∧ Numeral.isWritable generator.columnGap = true then some .output
  else none

section Unexpected

variable (nesting : Nat) (settings : Settings) (tree : FileTree)

/-- The flag without a value that a task comes to first. -/
def Task.lacks (generator : Generator) (threshold : Choice Binary64) : Task → Option Valueless
  | .demo _ output => pageLacks generator threshold output loginForm
  | .preview input limit =>
    if (documentAt nesting settings input tree).isSome ∧ limit = .void then some .limit else none
  | .generate input _ output => (documentAt nesting settings input tree).bind fun found =>
    pageLacks generator threshold output found.2

/-- The path of the document that a task loads. -/
def Task.input? : Task → Option Text
  | .demo _ _ => none
  | .preview input _ => some input
  | .generate input _ _ => some input

/-- The fault that a task comes to and does not expect: its document has too many brackets inside
one another, or else a flag has no value. -/
def Task.unexpected? (generator : Generator) (threshold : Choice Binary64) (task : Task) :
    Option Fault :=
  (task.input?.bind fun input => fault? (Storage.load nesting tree input).1).or
    ((task.lacks nesting settings tree generator threshold).map .valueless)

/-- The fault that a run comes to and does not expect. -/
def Invocation.unexpected? (invocation : Invocation) : Option Fault :=
  if invocation.strategy = .void then some (.valueless .strategy)
  else match generatorOf settings invocation with
    | .ok generator =>
      invocation.task.unexpected? nesting settings tree generator invocation.rowThreshold
    | .error _ => none

variable {nesting settings tree}

end Unexpected

section Makes

variable (nesting : Nat) (settings : Settings) (tree : FileTree)

/-- The complete result of a task. -/
inductive Makes (generator : Generator) : Task → Text → Prop where
  | demo {pageName output : Choice Text} {page : Page}
      (hpage : generator.generate loginForm (samplePageName pageName) = .ok page) :
      Makes generator (.demo pageName output) page.source
  | preview {input : Text} {limit : Choice Int} {document : Document}
      {detections : List Detection} {source : Text}
      (hdocument : documentAt nesting settings input tree = some (document, detections))
      (hsource : generator.preview detections limit.value? = .ok source) :
      Makes generator (.preview input limit) source
  | generate {input : Text} {pageName output : Choice Text} {document : Document}
      {detections : List Detection} {page : Page}
      (hdocument : documentAt nesting settings input tree = some (document, detections))
      (hpage : generator.generate detections (documentPageName pageName document) = .ok page) :
      Makes generator (.generate input pageName output) page.source

end Makes

/-- How a task with a document ends, if it is known how it goes on with each. Without a document no
flag is looked at. -/
theorem documentRun_cases {nesting : Nat} {settings : Settings} {tree : FileTree}
    {generator : Generator} {threshold : Choice Binary64} {task : Task} {input : Text}
    {next : Document → List Detection → Outcome} {P : Text → FileTree → Prop}
    (hinput : task.input? = some input)
    (hnone : documentAt nesting settings input tree = none →
      task.lacks nesting settings tree generator threshold = none)
    (hnext : ∀ document detections,
      documentAt nesting settings input tree = some (document, detections) →
        (∃ flag, task.lacks nesting settings tree generator threshold = some flag ∧
            (next document detections).Crashes (.valueless flag)) ∨
          (task.lacks nesting settings tree generator threshold = none ∧
            (next document detections).Concludes P)) :
    (∃ fault, task.unexpected? nesting settings tree generator threshold = some fault ∧
        (withDocument nesting settings input tree next).Crashes fault) ∨
      (task.unexpected? nesting settings tree generator threshold = none ∧
        (withDocument nesting settings input tree next).Concludes P) := by
  rcases withDocument_cases nesting settings input tree next with
    ⟨document, detections, entries, hdocument, hload, hentries, hrun⟩ | ⟨hmissing, hload, hfailed⟩ |
    ⟨fault, hload, hcrash⟩
  · have hunexpected : task.unexpected? nesting settings tree generator threshold =
        (task.lacks nesting settings tree generator threshold).map .valueless := by
      rw [Task.unexpected?, hinput, Option.bind_some, hload, Option.none_or]
    rw [hunexpected, hrun]
    rcases hnext document detections hdocument with ⟨flag, hlacks, hcrash⟩ | ⟨hlacks, hconcludes⟩
    · rw [hlacks]
      exact .inl ⟨_, rfl, crashes_after hentries hcrash⟩
    · rw [hlacks]
      exact .inr ⟨rfl, concludes_after hentries hconcludes⟩
  · refine .inr ⟨?_, hfailed P⟩
    rw [Task.unexpected?, hinput, Option.bind_some, hload, hnone hmissing]
    rfl
  · refine .inl ⟨fault, ?_, hcrash⟩
    rw [Task.unexpected?, hinput, Option.bind_some, hload, Option.some_or]

section Tasks

variable (nesting : Nat) (settings : Settings) (tree : FileTree) {generator : Generator}
  (hsides : generator.canvas.HasSides)

include hsides

/-- A page is made and delivered, or its gap is too long and the run says so, unless a flag has no
value. -/
theorem pageRun_cases (threshold : Choice Binary64) (output : Choice Text)
    (detections : List Detection) (name : Option Text) (entries : Page → List Log.Entry)
    (hentries : ∀ page, logsError (entries page) = false) :
    (∃ flag, pageLacks generator threshold output detections = some flag ∧
        (proceed (generatePage settings threshold generator detections name) tree fun page =>
          after (entries page) (deliver page.source output tree)).Crashes (.valueless flag)) ∨
      (pageLacks generator threshold output detections = none ∧
        (proceed (generatePage settings threshold generator detections name) tree fun page =>
          after (entries page) (deliver page.source output tree)).Concludes fun printed after =>
            ∃ page, generator.generate detections name = .ok page ∧
              Delivered page.source output printed after) := by
  unfold pageLacks generatePage
  split
  · exact .inl ⟨.rowThreshold, rfl, crashes_failing rfl tree⟩
  · rw [Generator.generateUnder_eq]
    cases hpage : generator.generate detections name with
    | error fault =>
      rcases Generator.fault_of_generate_eq_error hpage with
        ⟨-, hmissing⟩ | ⟨rfl, -, hgap⟩
      · exact absurd (.inr hsides) hmissing
      · rw [if_neg fun h => by rw [hgap] at h; cases h.2]
        exact .inr ⟨rfl, concludes_failing rfl tree⟩
    | ok page =>
      obtain ⟨-, hgap⟩ := (Generator.exists_generate_iff generator detections name).1 ⟨page, hpage⟩
      have hend : page.source.getLast? ≠ some CodePoint.lineFeed := by
        rw [Generator.getLast?_source_of_generate hpage]
        decide
      by_cases houtput : output = .void
      · rw [if_pos ⟨houtput, hgap⟩, houtput]
        exact .inl ⟨.output, rfl, crashes_after (hentries page) (crashes_failing rfl tree)⟩
      · rw [if_neg fun h => houtput h.1]
        refine .inr ⟨rfl, concludes_after (hentries page) ?_⟩
        exact (concludes_deliver hend houtput tree).imp fun _ _ hdelivered =>
          ⟨page, rfl, hdelivered⟩

theorem performWith_cases (threshold : Choice Binary64) (task : Task) :
    (∃ fault, task.unexpected? nesting settings tree generator threshold = some fault ∧
        (performWith nesting settings generator threshold tree task).Crashes fault) ∨
      (task.unexpected? nesting settings tree generator threshold = none ∧
        (performWith nesting settings generator threshold tree task).Concludes
          fun printed after => ∃ source, Makes nesting settings tree generator task source ∧
            Delivered source task.output printed after) := by
  cases task with
  | demo pageName output =>
    rcases pageRun_cases settings tree hsides threshold output loginForm
        (samplePageName pageName) (fun page => [page.logEntry]) fun _ => rfl with
      ⟨flag, hlacks, hcrash⟩ | ⟨hlacks, hconcludes⟩
    · refine .inl ⟨.valueless flag, ?_, hcrash⟩
      simp [Task.unexpected?, Task.input?, Task.lacks, hlacks]
    · refine .inr ⟨?_, hconcludes.imp ?_⟩
      · simp [Task.unexpected?, Task.input?, Task.lacks, hlacks]
      · rintro printed after ⟨page, hpage, hdelivered⟩
        exact ⟨_, .demo hpage, hdelivered⟩
  | preview input limit =>
    refine documentRun_cases rfl (fun hnone => by simp [Task.lacks, hnone]) ?_
    intro document detections hdocument
    rw [Task.lacks, hdocument]
    unfold generatePreview
    by_cases hlimit : limit = .void
    · rw [if_pos hlimit, if_pos ⟨rfl, hlimit⟩]
      exact .inl ⟨_, rfl, crashes_failing rfl tree⟩
    · obtain ⟨source, hsource⟩ :=
        (Generator.exists_preview_iff generator detections limit.value?).2 (.inr hsides)
      rw [if_neg hlimit, if_neg fun h => hlimit h.2, hsource]
      exact .inr ⟨rfl, .done rfl rfl ⟨source, .preview hdocument hsource, rfl⟩⟩
  | generate input pageName output =>
    refine documentRun_cases rfl (fun hnone => by simp [Task.lacks, hnone]) ?_
    intro document detections hdocument
    rw [Task.lacks, hdocument, Option.bind_some]
    rcases pageRun_cases settings tree hsides threshold output detections
        (documentPageName pageName document)
        (fun page => [page.logEntry, generatedEntry page]) fun _ => rfl with
      hcrash | ⟨hlacks, hconcludes⟩
    · exact .inl hcrash
    · refine .inr ⟨hlacks, hconcludes.imp ?_⟩
      rintro printed after ⟨page, hpage, hdelivered⟩
      exact ⟨_, .generate hdocument hpage, hdelivered⟩

end Tasks

/-! ## Runs -/

theorem canvas_of_generatorOf {settings : Settings} {invocation : Invocation}
    {generator : Generator} (h : generatorOf settings invocation = .ok generator) :
    generator.canvas = settings.canvas := by
  unfold generatorOf at h
  split at h
  · cases h
  · rw [Generator.canvas_of_build h, Settings.canvasFor_none]

theorem isExpected_of_generatorOf {settings : Settings} {invocation : Invocation} {fault : Fault}
    (hstrategy : invocation.strategy ≠ .void) (h : generatorOf settings invocation = .error fault) :
    isExpected fault = true := by
  rw [generatorOf, if_neg hstrategy] at h
  obtain ⟨given, rfl⟩ := Generator.strategy_of_build_eq_error h
  rfl

section Runs

variable {settings : Settings} (hwidth : settings.canvas.width.isSome)
  (hheight : settings.canvas.height.isSome)

include hwidth hheight

theorem perform_cases (nesting : Nat) (invocation : Invocation) (tree : FileTree) :
    (∃ fault, invocation.unexpected? nesting settings tree = some fault ∧
        (perform nesting settings invocation tree).Crashes fault) ∨
      (invocation.unexpected? nesting settings tree = none ∧
        (perform nesting settings invocation tree).Concludes fun printed after =>
          ∃ generator source, generatorOf settings invocation = .ok generator ∧
            Makes nesting settings tree generator invocation.task source ∧
            Delivered source invocation.task.output printed after) := by
  unfold perform Invocation.unexpected?
  by_cases hstrategy : invocation.strategy = .void
  · rw [generatorOf, if_pos hstrategy, if_pos hstrategy]
    exact .inl ⟨_, rfl, crashes_failing rfl tree⟩
  · rw [if_neg hstrategy]
    cases hgenerator : generatorOf settings invocation with
    | error fault =>
      exact .inr ⟨rfl, concludes_failing (isExpected_of_generatorOf hstrategy hgenerator) tree⟩
    | ok generator =>
      have hsides : generator.canvas.HasSides := by
        rw [canvas_of_generatorOf hgenerator]
        exact ⟨hwidth, hheight⟩
      rcases performWith_cases nesting settings tree hsides invocation.rowThreshold
          invocation.task with hcrash | ⟨hnone, hconcludes⟩
      · exact .inl hcrash
      · refine .inr ⟨hnone, hconcludes.imp ?_⟩
        rintro printed after ⟨source, hmakes, hdelivered⟩
        exact ⟨generator, source, rfl, hmakes, hdelivered⟩

/-- The fault that the arguments lead to and that is not expected. -/
def unexpected? (nesting : Nat) (settings : Settings) (args : List Text) (tree : FileTree) :
    Option Fault :=
  match Invocation.read args with
  | .read invocation => invocation.unexpected? nesting settings tree
  | _ => none

end Runs

/-! ## The sample form, two dashes for a value, and a deep document -/

section Sample

theorem isSome_standardCanvas :
    Settings.standard.canvas.width.isSome ∧ Settings.standard.canvas.height.isSome := by
  decide +kernel

/-- Asks for the page of a document in a file. -/
def deepArgs : List Text := ["generate", "deep.json"]

/-- A tree with this file, and in it one bracket more than may be open. -/
def deepTree (nesting : Nat) : FileTree :=
  FileTree.empty.put ["deep.json"] (.file (List.replicate (nesting + 1) 0x5B))

theorem read_deepArgs : Invocation.read deepArgs =
    .read ⟨.absent, .absent, .generate "deep.json" .absent .absent⟩ := by
  decide +kernel

theorem read_deepTree (nesting : Nat) :
    (deepTree nesting).read "deep.json" = .ok (List.replicate (nesting + 1) 0x5B) := by
  refine FileTree.read_of_write (t := .empty) (FileTree.write_eq_ok_iff.2 ⟨_, ?_, ?_, rfl⟩)
  · decide +kernel
  · decide +kernel

/-- **A document can be too deep for a run.** There is one for whatever may be open at once. -/
theorem run_crashes_deepArgs (nesting : Nat) :
    (run nesting .standard deepArgs (deepTree nesting)).Crashes (.tooDeep .array) := by
  obtain ⟨hwidth, hheight⟩ := isSome_standardCanvas
  have hpath : Storage.pathFault? "deep.json" = none := by decide +kernel
  have hload := Storage.load_of_replicate hpath (read_deepTree nesting)
  have hunexpected : Invocation.unexpected? nesting .standard (deepTree nesting)
      ⟨.absent, .absent, .generate "deep.json" .absent .absent⟩ = some (.tooDeep .array) := by
    obtain ⟨generator, hgenerator, -⟩ :=
      exists_generatorOf_standard (.generate "deep.json" .absent .absent)
    rw [Invocation.unexpected?, hgenerator]
    simp [Task.unexpected?, Task.input?, hload, fault?]
  rw [run, read_deepArgs]
  dsimp only
  rcases perform_cases hwidth hheight nesting
      ⟨.absent, .absent, .generate "deep.json" .absent .absent⟩ (deepTree nesting) with
    ⟨fault, hfault, hcrash⟩ | ⟨hnone, -⟩
  · rw [hunexpected] at hfault
    cases hfault
    exact hcrash
  · rw [hunexpected] at hnone
    cases hnone

end Sample

end CommandLine

end Wireframe
