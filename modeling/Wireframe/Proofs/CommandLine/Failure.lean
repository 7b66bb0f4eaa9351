import Wireframe.CommandLine.Run
import Wireframe.Proofs.Page.Fidelity
import Wireframe.Proofs.Storage.Saving

/-!
# What failing runs leave behind

A run that does not end with status 0 changes no file (`run_failing_tree`). It leaves the tree as it
was unless it came to saving its page: the directory of the output is made before the file is
written, and it is not taken away when writing fails.
-/
namespace Wireframe

open FileTree (directoryPath DirectoriesAdded)

open Storage (IsEncodable)

/-- The page of a generator can be written to a file, whatever its detections are labelled. -/
theorem Generator.isEncodable_of_generate_eq_ok {g : Generator}
    (hname : ∀ c ∈ g.defaultPageName, CodePoint.isAlphanumeric c = true)
    {detections : List Detection} {given : Option Text} {page : Page}
    (h : g.generate detections given = .ok page) : IsEncodable page.source := by
  obtain ⟨body, hbody, -, rfl⟩ := generate_eq_ok_iff.1 h
  exact (Page.wellFormed_enclose _ hname (Canvas.wellFormed_of_render_eq_ok hbody)).encodable

namespace CommandLine

open Outcome

/-- Where a task saves what it makes. -/
def Task.output : Task → Choice Text
  | .generate _ _ output => output
  | .preview _ _ => .absent
  | .demo _ output => output

/-! ## Steps -/

/-- A run that exits with status 0, or leaves the tree as it was, or as it is when a source could
not be saved at the output. -/
def Outcome.IsHarmless (tree : FileTree) (output : Choice Text) (o : Outcome) : Prop :=
  o.ending = .exit 0 ∨ o.tree = tree ∨
    ∃ path source, output = .value path ∧ IsEncodable source ∧
      (Storage.save tree source path).result ≠ .ok true ∧
      o.tree = (Storage.save tree source path).tree

section Steps

variable {tree : FileTree} {output : Choice Text}

theorem isHarmless_after {entries : List Log.Entry} {o : Outcome} (h : o.IsHarmless tree output) :
    (after entries o).IsHarmless tree output := h

theorem tree_failing (fault : Fault) (tree : FileTree) : (failing fault tree).tree = tree := by
  unfold failing
  split <;> rfl

theorem output_failing (fault : Fault) (tree : FileTree) : (failing fault tree).output = [] := by
  unfold failing
  split <;> rfl

theorem isHarmless_proceed {α : Type} {step : Except Fault α} {next : α → Outcome}
    (h : ∀ a, step = .ok a → (next a).IsHarmless tree output) :
    (proceed step tree next).IsHarmless tree output := by
  cases step with
  | ok a => exact h a rfl
  | error fault => exact .inr (.inl (tree_failing fault tree))

theorem ending_failing (fault : Fault) (tree : FileTree) :
    (failing fault tree).ending ≠ .exit 0 := by
  unfold failing
  split <;> exact fun h => by cases h

/-- Where there is a path nothing is printed, and the run ends as saving does. -/
theorem deliver_value (source path : Text) (tree : FileTree) :
    ((deliver source (.value path) tree).ending = .exit 0 ↔
        (Storage.save tree source path).result = .ok true) ∧
      (deliver source (.value path) tree).output = [] ∧
      (deliver source (.value path) tree).tree = (Storage.save tree source path).tree := by
  unfold deliver
  dsimp only
  cases (Storage.save tree source path).result with
  | error fault =>
    exact ⟨iff_of_false (ending_failing fault _) (fun h => by cases h), output_failing fault _,
      tree_failing fault _⟩
  | ok saved =>
    cases saved with
    | true => exact ⟨iff_of_true rfl rfl, rfl, rfl⟩
    | false => exact ⟨iff_of_false (fun h => by cases h) (fun h => by cases h), rfl, rfl⟩

theorem ending_deliver_of_refused {source path : Text}
    (h : (Storage.save tree source path).result = .ok false) :
    (deliver source (.value path) tree).ending = .exit 1 := by
  unfold deliver
  dsimp only
  rw [h]
  rfl

/-- The only step that changes the tree. -/
theorem isHarmless_deliver {source : Text} (h : IsEncodable source) :
    (deliver source output tree).IsHarmless tree output := by
  cases output with
  | absent => exact .inl rfl
  | void => exact .inr (.inl (tree_failing _ tree))
  | value path =>
    obtain ⟨hiff, -, htree⟩ := deliver_value source path tree
    by_cases hsaved : (Storage.save tree source path).result = .ok true
    · exact .inl (hiff.2 hsaved)
    · exact .inr (.inr ⟨path, source, rfl, h, hsaved, htree⟩)

theorem isHarmless_withDocument {nesting : Nat} {settings : Settings} {path : Text}
    {next : Document → List Detection → Outcome}
    (h : ∀ document detections, (next document detections).IsHarmless tree output) :
    (withDocument nesting settings path tree next).IsHarmless tree output :=
  isHarmless_after (isHarmless_proceed fun _ _ =>
    isHarmless_proceed fun _ _ => isHarmless_after (h _ _))

end Steps

/-! ## Runs -/

theorem isEncodable_of_generatePage {settings : Settings} {generator : Generator}
    (hname : ∀ c ∈ generator.defaultPageName, CodePoint.isAlphanumeric c = true)
    {threshold : Choice Binary64} {detections : List Detection} {name : Option Text} {page : Page}
    (h : generatePage settings threshold generator detections name = .ok page) :
    IsEncodable page.source := by
  unfold generatePage at h
  split at h
  · cases h
  · exact Generator.isEncodable_of_generate_eq_ok hname h

theorem isHarmless_performWith (nesting : Nat) (settings : Settings) {generator : Generator}
    (hname : ∀ c ∈ generator.defaultPageName, CodePoint.isAlphanumeric c = true)
    (threshold : Choice Binary64) (tree : FileTree) (task : Task) :
    (performWith nesting settings generator threshold tree task).IsHarmless tree task.output := by
  cases task with
  | demo pageName output =>
    refine isHarmless_proceed ?_
    intro page hpage
    exact isHarmless_after (isHarmless_deliver (isEncodable_of_generatePage hname hpage))
  | preview input limit =>
    refine isHarmless_withDocument ?_
    intro document detections
    refine isHarmless_proceed ?_
    intro source _
    exact .inl rfl
  | generate input pageName output =>
    refine isHarmless_withDocument ?_
    intro document detections
    refine isHarmless_proceed ?_
    intro page hpage
    exact isHarmless_after (isHarmless_deliver (isEncodable_of_generatePage hname hpage))

theorem alphanumeric_of_generatorOf {settings : Settings} {invocation : Invocation}
    {generator : Generator} (h : generatorOf settings invocation = .ok generator) :
    ∀ c ∈ generator.defaultPageName, CodePoint.isAlphanumeric c = true := by
  unfold generatorOf at h
  split at h
  · cases h
  · exact Generator.alphanumeric_of_build h

theorem isHarmless_perform (nesting : Nat) (settings : Settings) (invocation : Invocation)
    (tree : FileTree) :
    (perform nesting settings invocation tree).IsHarmless tree invocation.task.output := by
  refine isHarmless_proceed ?_
  intro generator hgenerator
  exact isHarmless_performWith nesting settings (alphanumeric_of_generatorOf hgenerator) _ tree _

/-- A run that fails leaves the tree as it was, or as saving left it. -/
theorem tree_run {nesting : Nat} {settings : Settings} {args : List Text} {tree : FileTree}
    (h : (run nesting settings args tree).ending ≠ .exit 0) :
    (run nesting settings args tree).tree = tree ∨
      ∃ invocation path source, Invocation.read args = .read invocation ∧
        invocation.task.output = .value path ∧ IsEncodable source ∧
        (Storage.save tree source path).result ≠ .ok true ∧
        (run nesting settings args tree).tree = (Storage.save tree source path).tree := by
  unfold run at h ⊢
  cases hread : Invocation.read args with
  | help => exact .inl rfl
  | misuse => exact .inl rfl
  | read invocation =>
    rw [hread] at h
    rcases isHarmless_perform nesting settings invocation tree with
      hending | hsame | ⟨path, source, houtput, hencodable, hresult, htree⟩
    · exact absurd hending h
    · exact .inl hsame
    · exact .inr ⟨invocation, path, source, rfl, houtput, hencodable, hresult, htree⟩

/-- **What a failing run leaves behind.** A run that does not end with status 0 changes no file.
The tree is what it was, unless the page could not be saved at the output; then it may have more
directories on the way to that of the output, where nothing stood before. Saving alone does no more
than that either when its answer is no. -/
theorem run_failing_tree (nesting : Nat) (settings : Settings) (args : List Text)
    (tree : FileTree) :
    ((run nesting settings args tree).ending ≠ .exit 0 →
      ((run nesting settings args tree).tree = tree ∨
        ∃ invocation path source, Invocation.read args = .read invocation ∧
          invocation.task.output = .value path ∧
          (Storage.save tree source path).result ≠ .ok true ∧
          (run nesting settings args tree).tree = (Storage.save tree source path).tree ∧
          DirectoriesAdded tree (run nesting settings args tree).tree
            (tree.locate (directoryPath path))) ∧
      ∀ k content, (run nesting settings args tree).tree.node? k = some (.file content) ↔
        tree.node? k = some (.file content)) ∧
    ∀ source path, (Storage.save tree source path).result = .ok false →
      DirectoriesAdded tree (Storage.save tree source path).tree
        (tree.locate (directoryPath path)) := by
  constructor
  · intro h
    rcases tree_run h with
      hsame | ⟨invocation, path, source, hread, houtput, hencodable, hresult, htree⟩
    · refine ⟨.inl hsame, ?_⟩
      intro k content
      rw [hsame]
    · have hadded : DirectoriesAdded tree (run nesting settings args tree).tree
          (tree.locate (directoryPath path)) := by
        rw [htree]
        exact Storage.directoriesAdded_save hresult (.inl hencodable)
      exact ⟨.inr ⟨invocation, path, source, hread, houtput, hresult, htree, hadded⟩,
        hadded.file_iff⟩
  · intro source path hrefused
    exact Storage.directoriesAdded_of_refused hrefused

/-! ## A path that ends in a slash -/

section Slash

/-- Asks for the page of the sample form in a file whose path ends in a slash. -/
def slashArgs : List Text := ["demo", "--output", "out/"]

theorem read_slashArgs : Invocation.read slashArgs =
    .read ⟨.absent, .absent, .demo .absent (.value "out/")⟩ := by
  decide +kernel

/-- The tree with the directory that such a path names. -/
def slashTree : FileTree := ⟨[(["out"], .directory)], []⟩

/-- The directory is made first, and then the path leads to it and not to a file. -/
theorem save_slash (source : Text) :
    (Storage.save .empty source "out/").tree = slashTree ∧
      (Storage.save .empty source "out/").result = .ok false := by
  have hdirectory : directoryPath "out/" = Text.ofString "out" := by decide +kernel
  have hprovide : FileTree.empty.provideDirectory "out" = (slashTree, .ok ["out"]) := by
    decide +kernel
  have hfault : Storage.pathFault? "out" = none := by decide +kernel
  have hfile : Storage.saveFile slashTree source "out/" = Storage.failed slashTree "out/" :=
    Storage.saveFile_eq_failed (l := ["out"]) (by decide +kernel) (by decide +kernel)
      (by decide +kernel)
  have hsave : Storage.save .empty source "out/" = Storage.failed slashTree "out/" := by
    unfold Storage.save
    dsimp only
    rw [hdirectory, if_neg (by decide +kernel), hfault, hprovide]
    exact hfile
  rw [hsave]
  exact ⟨rfl, rfl⟩

theorem exists_generatorOf_standard (task : Task) :
    ∃ generator, generatorOf .standard ⟨.absent, .absent, task⟩ = .ok generator ∧
      generator.canvas.HasSides ∧ Numeral.isWritable generator.columnGap = true := by
  rw [generatorOf, if_neg (by simp)]
  obtain ⟨generator, hbuild⟩ :=
    (Generator.exists_build_iff .standard {}).2 ⟨.drifting, RowStrategy.parse_name .drifting⟩
  refine ⟨generator, hbuild, ?_, ?_⟩
  · rw [Generator.canvas_of_build hbuild]
    decide +kernel
  · rw [Generator.columnGap_of_build hbuild]
    decide +kernel

/-- The page of the sample form is made whatever its output is. -/
theorem exists_run_demo (nesting : Nat) {args : List Text} {output : Choice Text}
    (h : Invocation.read args = .read ⟨.absent, .absent, .demo .absent output⟩) (tree : FileTree) :
    ∃ page : Page, IsEncodable page.source ∧
      run nesting .standard args tree =
        after [page.logEntry] (deliver page.source output tree) := by
  obtain ⟨generator, hgenerator, hsides, hgap⟩ :=
    exists_generatorOf_standard (.demo .absent output)
  obtain ⟨page, hpage⟩ :=
    (Generator.exists_generate_iff generator loginForm (some sampleName)).2 ⟨.inr hsides, hgap⟩
  have hgeneratePage :
      generatePage .standard .absent generator loginForm (samplePageName .absent) = .ok page := by
    rw [generatePage, if_neg (by simp), Generator.generateUnder_eq]
    exact hpage
  refine ⟨page, isEncodable_of_generatePage (alphanumeric_of_generatorOf hgenerator) hgeneratePage,
    ?_⟩
  rw [run, h]
  dsimp only
  rw [perform, hgenerator, proceed, performWith, hgeneratePage, proceed]

/-- The page of the sample form is made before it is known that it cannot be saved. -/
theorem run_slash : (run Json.nestingLimit .standard slashArgs .empty).ending = .exit 1 ∧
    (run Json.nestingLimit .standard slashArgs .empty).tree = slashTree := by
  obtain ⟨page, -, hrun⟩ := exists_run_demo Json.nestingLimit read_slashArgs .empty
  obtain ⟨htree, hresult⟩ := save_slash page.source
  rw [hrun]
  exact ⟨ending_deliver_of_refused hresult, (deliver_value _ _ _).2.2.trans htree⟩

/-- **A failing run can leave a directory behind**, and so can saving alone. -/
theorem run_leaves_directory :
    (run Json.nestingLimit .standard slashArgs .empty).ending = .exit 1 ∧
      (run Json.nestingLimit .standard slashArgs .empty).tree ≠ .empty ∧
      (run Json.nestingLimit .standard slashArgs .empty).tree.node? ["out"] = some .directory ∧
      ∀ source, (Storage.save .empty source "out/").result = .ok false ∧
        (Storage.save .empty source "out/").tree ≠ .empty := by
  obtain ⟨hending, htree⟩ := run_slash
  have hne : slashTree ≠ .empty := by
    intro h
    cases congrArg FileTree.entries h
  have hstands : slashTree.node? ["out"] = some .directory := by decide +kernel
  rw [htree]
  refine ⟨hending, hne, hstands, ?_⟩
  intro source
  obtain ⟨hsaved, hresult⟩ := save_slash source
  rw [hsaved]
  exact ⟨hresult, hne⟩

/-- What it leaves is on the way to the directory of its output. -/
theorem run_failing_tree_slash :
    (run Json.nestingLimit .standard slashArgs .empty).ending ≠ .exit 0 ∧
      ∃ invocation path, Invocation.read slashArgs = .read invocation ∧
        invocation.task.output = .value path ∧
        DirectoriesAdded .empty (run Json.nestingLimit .standard slashArgs .empty).tree
          (FileTree.empty.locate (directoryPath path)) := by
  obtain ⟨hending, htree⟩ := run_slash
  have hfails : (run Json.nestingLimit .standard slashArgs .empty).ending ≠ .exit 0 := by
    rw [hending]
    exact fun h => by cases h
  refine ⟨hfails, ?_⟩
  rcases ((run_failing_tree Json.nestingLimit .standard slashArgs .empty).1 hfails).1 with
    hsame | ⟨invocation, path, source, hread, houtput, -, -, hadded⟩
  · rw [htree] at hsame
    cases congrArg FileTree.entries hsame
  · exact ⟨invocation, path, hread, houtput, hadded⟩

end Slash

end CommandLine

end Wireframe
