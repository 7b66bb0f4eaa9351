import Wireframe.Proofs.CommandLine.Reports

/-!
# What is saved is what is printed

Two runs that differ in their output alone are compared step by step (`Mirrors`): they take the same
steps up to the last one, where one saves the source that the other prints (`mirrors_deliver`). A
source is printed with a line feed behind it and saved with a line feed at its end. This is the same
for the source of a page, which ends with a brace.

Main statement: `run_saves_what_it_prints`.
-/
namespace Wireframe

open FileTree (FilePut)

namespace CommandLine

open Outcome

/-! ## Runs that print -/

/-- The task without its output, so that what it makes is printed. -/
def Task.printing : Task → Task
  | .generate input pageName _ => .generate input pageName .absent
  | .preview input limit => .preview input limit
  | .demo pageName _ => .demo pageName .absent

/-- The invocation without its output. -/
def Invocation.printing (invocation : Invocation) : Invocation :=
  { invocation with task := invocation.task.printing }

/-- Two runs of which neither exits with status 0, or of which the second has printed a source and
the first has come to saving it at a path. -/
inductive Mirrors (tree : FileTree) (path : Text) (saving printing : Outcome) : Prop where
  | failed (saving : saving.ending ≠ .exit 0) (printing : printing.ending ≠ .exit 0)
  | delivered (source : Text) (unended : source.getLast? ≠ some CodePoint.lineFeed)
      (ending : printing.ending = .exit 0) (kept : printing.tree = tree)
      (printed : printing.output = source ++ [CodePoint.lineFeed])
      (saved_iff : saving.ending = .exit 0 ↔ (Storage.save tree source path).result = .ok true)
      (left : saving.tree = (Storage.save tree source path).tree) (silent : saving.output = [])

section Steps

variable {tree : FileTree} {path : Text}

theorem mirrors_after {entries entries' : List Log.Entry} {saving printing : Outcome}
    (h : Mirrors tree path saving printing) :
    Mirrors tree path (after entries saving) (after entries' printing) := by
  cases h with
  | failed hsaving hprinting => exact .failed hsaving hprinting
  | delivered source unended ending kept printed saved_iff left silent =>
    exact .delivered source unended ending kept printed saved_iff left silent

theorem mirrors_proceed {α : Type} {step : Except Fault α} {next next' : α → Outcome}
    (h : ∀ a, step = .ok a → Mirrors tree path (next a) (next' a)) :
    Mirrors tree path (proceed step tree next) (proceed step tree next') := by
  cases step with
  | ok a => exact h a rfl
  | error fault => exact .failed (ending_failing fault tree) (ending_failing fault tree)

theorem mirrors_withDocument {nesting : Nat} {settings : Settings} {input : Text}
    {next next' : Document → List Detection → Outcome}
    (h : ∀ document detections,
      Mirrors tree path (next document detections) (next' document detections)) :
    Mirrors tree path (withDocument nesting settings input tree next)
      (withDocument nesting settings input tree next') :=
  mirrors_after (mirrors_proceed fun _ _ =>
    mirrors_proceed fun _ _ => mirrors_after (h _ _))

/-- The one step in which the runs differ. -/
theorem mirrors_deliver {source : Text} (h : source.getLast? ≠ some CodePoint.lineFeed) :
    Mirrors tree path (deliver source (.value path) tree) (deliver source .absent tree) := by
  obtain ⟨hiff, houtput, htree⟩ := deliver_value source path tree
  exact .delivered source h rfl rfl rfl hiff htree houtput

end Steps

/-! ## Whole runs -/

theorem getLast?_source_of_generatePage {settings : Settings} {generator : Generator}
    {threshold : Choice Binary64} {detections : List Detection} {name : Option Text} {page : Page}
    (h : generatePage settings threshold generator detections name = .ok page) :
    page.source.getLast? ≠ some CodePoint.lineFeed := by
  unfold generatePage at h
  split at h
  · cases h
  · rw [Generator.generateUnder_eq] at h
    rw [Generator.getLast?_source_of_generate h]
    decide

theorem mirrors_performWith (nesting : Nat) (settings : Settings) (generator : Generator)
    (threshold : Choice Binary64) (tree : FileTree) {task : Task} {path : Text}
    (h : task.output = .value path) :
    Mirrors tree path (performWith nesting settings generator threshold tree task)
      (performWith nesting settings generator threshold tree task.printing) := by
  cases task with
  | demo pageName output =>
    cases h
    refine mirrors_proceed ?_
    intro page hpage
    exact mirrors_after (mirrors_deliver (getLast?_source_of_generatePage hpage))
  | preview input limit => cases h
  | generate input pageName output =>
    cases h
    refine mirrors_withDocument ?_
    intro document detections
    refine mirrors_proceed ?_
    intro page hpage
    exact mirrors_after (mirrors_deliver (getLast?_source_of_generatePage hpage))

theorem mirrors_perform (nesting : Nat) (settings : Settings) (tree : FileTree)
    {invocation : Invocation} {path : Text} (h : invocation.task.output = .value path) :
    Mirrors tree path (perform nesting settings invocation tree)
      (perform nesting settings invocation.printing tree) :=
  mirrors_proceed fun generator _ => mirrors_performWith nesting settings generator _ tree h

/-- **What is saved is what is printed.** A run with an output path exits with status 0 exactly if
the same run without it does and what this one prints can be saved at the path. Then the other
leaves the tree as it is, and what it prints is the content of the file at the path, where the first
prints nothing; and of the rest of the tree nothing has changed but that the directories above the
file that were missing are there.

Whenever a text is saved, the file holds it with a line feed more if it did not end in one, and as
it is if it did. Saving it once more changes nothing further. -/
theorem run_saves_what_it_prints (nesting : Nat) (settings : Settings) (tree : FileTree) :
    (∀ args bare invocation path, Invocation.read args = .read invocation →
      invocation.task.output = .value path →
      Invocation.read bare = .read invocation.printing →
        ((run nesting settings args tree).ending = .exit 0 ↔
          (run nesting settings bare tree).ending = .exit 0 ∧
          ∃ source, (run nesting settings bare tree).output = source ++ [CodePoint.lineFeed] ∧
            (Storage.save tree source path).result = .ok true) ∧
        ((run nesting settings args tree).ending = .exit 0 →
          (run nesting settings bare tree).tree = tree ∧
          (run nesting settings args tree).output = [] ∧
          ∃ octets, Utf8.encode (run nesting settings bare tree).output = some octets ∧
            FilePut tree (run nesting settings args tree).tree path octets)) ∧
    ∀ source path, (Storage.save tree source path).result = .ok true →
      (∃ octets, FilePut tree (Storage.save tree source path).tree path octets ∧
        (source.getLast? = some CodePoint.lineFeed → Utf8.encode source = some octets) ∧
        (source.getLast? ≠ some CodePoint.lineFeed →
          Utf8.encode (source ++ [CodePoint.lineFeed]) = some octets)) ∧
      (Storage.save (Storage.save tree source path).tree source path).result = .ok true ∧
      (Storage.save (Storage.save tree source path).tree source path).tree =
        (Storage.save tree source path).tree := by
  constructor
  · intro args bare invocation path hread houtput hbare
    have hargs : run nesting settings args tree = perform nesting settings invocation tree := by
      rw [run, hread]
    have hprinting : run nesting settings bare tree =
        perform nesting settings invocation.printing tree := by
      rw [run, hbare]
    rw [hargs, hprinting]
    cases mirrors_perform nesting settings tree houtput with
    | failed hsaving hprinting =>
      exact ⟨iff_of_false hsaving fun h => hprinting h.1, fun h => absurd h hsaving⟩
    | delivered source unended ending kept printed saved_iff left silent =>
      constructor
      · rw [saved_iff, printed]
        constructor
        · intro hsaved
          exact ⟨ending, source, rfl, hsaved⟩
        · rintro ⟨-, source', hsource, hsaved⟩
          rwa [List.append_cancel_right hsource]
      · intro hending
        obtain ⟨octets, hencode, hput⟩ := Storage.filePut_save (saved_iff.1 hending)
        rw [Storage.lineEnded, if_neg unended] at hencode
        refine ⟨kept, silent, octets, ?_, ?_⟩
        · rw [printed, hencode]
        · rw [left]
          exact hput
  · intro source path hsaved
    obtain ⟨octets, hencode, hput⟩ := Storage.filePut_save hsaved
    refine ⟨⟨octets, hput, ?_, ?_⟩, Storage.save_again hsaved⟩
    · intro hended
      rwa [Storage.lineEnded, if_pos hended] at hencode
    · intro hunended
      rwa [Storage.lineEnded, if_neg hunended] at hencode

section Sample

/-- Asks for the page of the sample form in a file of a directory. -/
def nestedArgs : List Text := ["demo", "--output", "lib/login.dart"]

theorem read_nestedArgs : Invocation.read nestedArgs =
    .read ⟨.absent, .absent, .demo .absent (.value "lib/login.dart")⟩ := by
  decide +kernel

theorem read_demo : Invocation.read ["demo"] = .read ⟨.absent, .absent, .demo .absent .absent⟩ := by
  decide +kernel

/-- The directory is made and the file is written in it. -/
theorem save_nested {source : Text} (h : Storage.IsEncodable source) :
    (Storage.save .empty source "lib/login.dart").result = .ok true := by
  let ready : FileTree := ⟨[(["lib"], .directory)], []⟩
  have hprovided : Storage.Provided .empty "lib/login.dart" ready :=
    .made (l := ["lib"]) (by decide +kernel) (by decide +kernel) (by decide +kernel)
  obtain ⟨octets, hencode⟩ := Storage.exists_encode_lineEnded h
  have hwrite : ready.write "lib/login.dart" octets =
      .ok (ready.put ["lib", "login.dart"] (.file octets)) :=
    FileTree.write_eq_ok_iff.2 ⟨_, by decide +kernel, by decide +kernel, rfl⟩
  have hpath : Storage.pathFault? "lib/login.dart" = none := by decide +kernel
  rw [Storage.save_of_provided hprovided, Storage.saveFile, hpath, hencode]
  dsimp only
  rw [hwrite]

/-- The page of the sample form is saved in a directory that was missing. -/
theorem run_saves_what_it_prints_demo :
    (run Json.nestingLimit .standard nestedArgs .empty).ending = .exit 0 ∧
      (run Json.nestingLimit .standard ["demo"] .empty).ending = .exit 0 ∧
      (∃ octets,
        Utf8.encode (run Json.nestingLimit .standard ["demo"] .empty).output = some octets ∧
        FilePut .empty (run Json.nestingLimit .standard nestedArgs .empty).tree "lib/login.dart"
          octets) ∧
      (Storage.save .empty "text" "lib/login.dart").result = .ok true ∧
      (Storage.save (Storage.save .empty "text" "lib/login.dart").tree "text"
        "lib/login.dart").tree = (Storage.save .empty "text" "lib/login.dart").tree := by
  obtain ⟨hruns, hsaves⟩ := run_saves_what_it_prints Json.nestingLimit .standard .empty
  have hending : (run Json.nestingLimit .standard nestedArgs .empty).ending = .exit 0 := by
    obtain ⟨page, hencodable, hrun⟩ := exists_run_demo Json.nestingLimit read_nestedArgs .empty
    rw [hrun]
    exact (deliver_value page.source "lib/login.dart" .empty).1.2 (save_nested hencodable)
  obtain ⟨hiff, hfile⟩ :=
    hruns nestedArgs ["demo"] _ "lib/login.dart" read_nestedArgs rfl read_demo
  have hsaved : (Storage.save .empty "text" "lib/login.dart").result = .ok true :=
    save_nested (by unfold Storage.IsEncodable; decide +kernel)
  exact ⟨hending, (hiff.1 hending).1, (hfile hending).2.2, hsaved,
    (hsaves "text" "lib/login.dart" hsaved).2.2⟩

end Sample

end CommandLine

end Wireframe
