import Wireframe.Proofs.FileTree.Writing
import Wireframe.Storage

/-!
# What saving leaves behind

Saving makes the directory of a file before it writes the file. When it succeeds, there is the file,
and the directories above it that were missing are there (`filePut_save`); saving the same again
finds all of it in place (`save_again`). When it fails, what it made stays: the tree has more
directories on the way to that directory, where nothing stood before, and is otherwise as it was
(`directoriesAdded_save`). The one failure that reaches a file is a source that cannot be encoded,
and that is no answer but a fault.
-/
namespace Wireframe

namespace Storage

open FileTree (directoryPath isEmpty_directoryPath_iff slash DirectoriesAdded)

/-! ## Saving -/

/-- Whether a text can be written to a file. -/
def IsEncodable (source : Text) : Prop := ∀ c ∈ source, CodePoint.isSurrogate c = false

theorem exists_encode_lineEnded {source : Text} (h : IsEncodable source) :
    ∃ octets, encode (lineEnded source) = .ok octets := by
  have hlineEnded : IsEncodable (lineEnded source) := by
    unfold lineEnded
    split
    · exact h
    · intro c hc
      rcases List.mem_append.1 hc with hc | hc
      · exact h c hc
      · rw [List.mem_singleton.1 hc]
        decide
  obtain ⟨octets, hoctets⟩ := Utf8.exists_encode hlineEnded
  refine ⟨octets, ?_⟩
  rw [encode, hoctets]

/-- The tree in which the file of a path is written: its directory has been provided, unless the
path is a single name. -/
inductive Provided (t : FileTree) (path : Text) : FileTree → Prop where
  | asIs (single : slash ∉ path) : Provided t path t
  | made {ready : FileTree} {l : Location} (nested : slash ∈ path)
      (isPath : pathFault? (directoryPath path) = none)
      (made : t.provideDirectory (directoryPath path) = (ready, .ok l)) : Provided t path ready

section Cases

variable (t : FileTree) (source path : Text)

/-- A file is written with its source, or emptied for a source that cannot be encoded, or else it
is not written at all. -/
theorem saveFile_cases :
    (∃ octets, pathFault? path = none ∧ encode (lineEnded source) = .ok octets ∧
      t.write path octets = .ok (saveFile t source path).tree ∧
      (saveFile t source path).result = .ok true) ∨
    (∃ fault, encode (lineEnded source) = .error fault ∧
      t.write path [] = .ok (saveFile t source path).tree ∧
      (saveFile t source path).result = .error fault) ∨
    ((saveFile t source path).tree = t ∧ (saveFile t source path).result ≠ .ok true) := by
  unfold saveFile
  cases pathFault? path with
  | some fault => exact .inr (.inr ⟨rfl, fun h => by cases h⟩)
  | none =>
    cases encode (lineEnded source) with
    | ok octets =>
      dsimp only
      cases hwrite : t.write path octets with
      | ok after => exact .inl ⟨octets, rfl, rfl, hwrite, rfl⟩
      | error e => exact .inr (.inr ⟨rfl, fun h => by cases h⟩)
    | error fault =>
      dsimp only
      cases t.write path [] with
      | ok after => exact .inr (.inl ⟨fault, rfl, rfl, rfl⟩)
      | error e => exact .inr (.inr ⟨rfl, fun h => by cases h⟩)

/-- Saving comes to writing the file, or it ends before that; the directory of the file may have
been made by then. -/
theorem save_cases :
    ∃ ready, DirectoriesAdded t ready (t.locate (directoryPath path)) ∧
      (Provided t path ready ∧ save t source path = saveFile ready source path ∨
        (save t source path).tree = ready ∧ (save t source path).result ≠ .ok true) := by
  unfold save
  dsimp only
  by_cases hnested : slash ∈ path
  · rw [if_neg fun h => isEmpty_directoryPath_iff.1 h hnested]
    cases hfault : pathFault? (directoryPath path) with
    | some fault => exact ⟨t, .refl t _, .inr ⟨rfl, fun h => by cases h⟩⟩
    | none =>
      cases hprovide : t.provideDirectory (directoryPath path) with
      | mk ready result =>
        refine ⟨ready, FileTree.directoriesAdded_provideDirectory hprovide, ?_⟩
        cases result with
        | ok l => exact .inl ⟨.made hnested hfault hprovide, rfl⟩
        | error e => exact .inr ⟨rfl, fun h => by cases h⟩
  · rw [if_pos (isEmpty_directoryPath_iff.2 hnested)]
    exact ⟨t, .refl t _, .inl ⟨.asIs hnested, rfl⟩⟩

end Cases

section Success

variable {t ready : FileTree} {source path : Text}

theorem save_of_provided (h : Provided t path ready) :
    save t source path = saveFile ready source path := by
  unfold save
  cases h with
  | asIs single => exact if_pos (isEmpty_directoryPath_iff.2 single)
  | made nested isPath made =>
    dsimp only
    rw [if_neg fun h => isEmpty_directoryPath_iff.1 h nested, isPath, made]

/-- What is saved has been written in the directory that was provided for it. -/
theorem exists_write_of_saved (h : (save t source path).result = .ok true) :
    ∃ ready octets, Provided t path ready ∧ pathFault? path = none ∧
      Utf8.encode (lineEnded source) = some octets ∧
      ready.write path octets = .ok (save t source path).tree := by
  obtain ⟨ready, -, ⟨hprovided, hsave⟩ | ⟨-, hresult⟩⟩ := save_cases t source path
  · rw [hsave] at h ⊢
    rcases saveFile_cases ready source path with
      ⟨octets, hpath, hencode, hwrite, -⟩ | ⟨fault, -, -, hresult⟩ | ⟨-, hresult⟩
    · refine ⟨ready, octets, hprovided, hpath, ?_, hwrite⟩
      unfold encode at hencode
      split at hencode
      · next hoctets =>
        cases hencode
        exact hoctets
      · cases hencode
    · rw [hresult] at h
      cases h
    · exact absurd h hresult
  · exact absurd h hresult

end Success

section Files

variable {t ready after : FileTree} {source path : Text} {octets : Octets}

namespace Provided

theorem here_eq (h : Provided t path ready) : ready.here = t.here := by
  cases h with
  | asIs single => rfl
  | made nested isPath made => exact (FileTree.directoriesAdded_provideDirectory made).here

/-- The directory of the path is there. -/
theorem reaches_parentOf (h : Provided t path ready) (hfrom : slash ∈ path ∨ t.Reaches t.here) :
    ready.Reaches (ready.parentOf path) := by
  cases h with
  | asIs single =>
    rw [FileTree.parentOf_of_not_mem single]
    exact hfrom.resolve_left single
  | made nested isPath made =>
    have hhere := here_eq (.made nested isPath made)
    rw [FileTree.parentOf_congr hhere, ← FileTree.locate_directoryPath nested]
    exact FileTree.reaches_provideDirectory made

/-- Only directories of the path have been made. -/
theorem node? (h : Provided t path ready) (k : Location) :
    ready.node? k = t.node? k ∨ (slash ∈ path ∧ k <+: ready.parentOf path ∧
      t.node? k = none ∧ ready.node? k = some .directory) := by
  cases h with
  | asIs single => exact .inl rfl
  | made nested isPath made =>
    have hhere := here_eq (.made nested isPath made)
    have hadded := FileTree.directoriesAdded_provideDirectory made
    rw [FileTree.locate_directoryPath nested, ← FileTree.parentOf_congr hhere] at hadded
    rcases hadded.node? k with hsame | hmade
    · exact .inl hsame
    · exact .inr ⟨nested, hmade⟩

/-- Where a file was written, its directory need not be provided again. -/
theorem of_write (h : Provided t path ready) (hwrite : ready.write path octets = .ok after) :
    Provided after path after := by
  have hhere : after.here = t.here := (FileTree.here_write hwrite).trans h.here_eq
  cases h with
  | asIs single => exact .asIs single
  | made nested isPath made =>
    refine .made nested isPath (FileTree.provideDirectory_eq_self made hhere ?_)
    exact (FileTree.reaches_provideDirectory made).of_write hwrite

/-- A file written in its directory is put there, and what is new besides are directories above
it. -/
theorem filePut (h : Provided t path ready) (hwrite : ready.write path octets = .ok after) :
    FileTree.FilePut t after path octets := by
  obtain ⟨l, hresolve, hstands, hnode⟩ := FileTree.node?_write hwrite
  have hlocate : t.locate path = l := by
    rw [← FileTree.locate_congr h.here_eq, FileTree.locate_of_resolve hresolve]
  have hname (hfrom : slash ∈ path ∨ t.Reaches t.here) :
      ∃ name, l = ready.parentOf path ++ [name] :=
    FileTree.exists_name_of_resolve hresolve (h.reaches_parentOf hfrom) hstands
  refine ⟨(FileTree.here_write hwrite).trans h.here_eq, FileTree.read_of_write hwrite,
    ?_, ?_, ?_, ?_⟩
  · rw [hlocate]
    exact FileTree.resolve_of_write hwrite hresolve
  · rw [hlocate, hnode, if_pos rfl]
  · intro k hk
    rw [hlocate] at hk ⊢
    rw [hnode, if_neg hk]
    rcases h.node? k with hsame | ⟨hnested, hprefix, hnone, hmade⟩
    · exact .inl hsame
    · obtain ⟨name, hname⟩ := hname (.inl hnested)
      refine .inr ⟨?_, hnone, hmade⟩
      rw [hname]
      exact hprefix.trans (List.prefix_append _ _)
  · intro hhere
    obtain ⟨name, hname⟩ := hname (.inr hhere)
    rw [hlocate, hname, List.dropLast_concat]
    exact (h.reaches_parentOf (.inr hhere)).of_write hwrite

end Provided

/-- A save puts its source in the file of its path, with a line feed at its end. -/
theorem filePut_save (h : (save t source path).result = .ok true) :
    ∃ octets, Utf8.encode (lineEnded source) = some octets ∧
      FileTree.FilePut t (save t source path).tree path octets := by
  obtain ⟨ready, octets, hprovided, -, hencode, hwrite⟩ := exists_write_of_saved h
  exact ⟨octets, hencode, hprovided.filePut hwrite⟩

/-- Saving once more changes nothing further. -/
theorem save_again (h : (save t source path).result = .ok true) :
    (save (save t source path).tree source path).result = .ok true ∧
      (save (save t source path).tree source path).tree = (save t source path).tree := by
  obtain ⟨ready, octets, hprovided, hpath, hencode, hwrite⟩ := exists_write_of_saved h
  have hencode : encode (lineEnded source) = .ok octets := by rw [encode, hencode]
  rw [save_of_provided (hprovided.of_write hwrite), saveFile, hpath, hencode]
  dsimp only
  rw [FileTree.write_of_write hwrite]
  exact ⟨rfl, rfl⟩

end Files

section Failure

variable {t : FileTree} {source path : Text}

theorem tree_saveFile (h : (saveFile t source path).result ≠ .ok true)
    (hspared : IsEncodable source ∨ (saveFile t source path).result = .ok false) :
    (saveFile t source path).tree = t := by
  rcases saveFile_cases t source path with
    ⟨-, -, -, -, hsaved⟩ | ⟨fault, hencode, -, hfault⟩ | ⟨htree, -⟩
  · exact absurd hsaved h
  · rcases hspared with hencodable | hrefused
    · obtain ⟨octets, hoctets⟩ := exists_encode_lineEnded hencodable
      rw [hoctets] at hencode
      cases hencode
    · rw [hfault] at hrefused
      cases hrefused
  · exact htree

/-- **What a failed save leaves behind.** If a text is not saved, no file has changed, and what is
new are directories on the way to that of the path. This holds of every text that can be encoded,
and of every text whose saving is answered with a no. -/
theorem directoriesAdded_save (h : (save t source path).result ≠ .ok true)
    (hspared : IsEncodable source ∨ (save t source path).result = .ok false) :
    DirectoriesAdded t (save t source path).tree (t.locate (directoryPath path)) := by
  obtain ⟨ready, hadded, ⟨-, hsave⟩ | ⟨htree, -⟩⟩ := save_cases t source path
  · rw [hsave] at h hspared ⊢
    rw [tree_saveFile h hspared]
    exact hadded
  · rw [htree]
    exact hadded

theorem directoriesAdded_of_refused (h : (save t source path).result = .ok false) :
    DirectoriesAdded t (save t source path).tree (t.locate (directoryPath path)) := by
  refine directoriesAdded_save ?_ (.inr h)
  rw [h]
  exact fun hsaved => by cases hsaved

/-- Nothing is saved where a directory stands. -/
theorem saveFile_eq_failed {l : Location} (hpath : pathFault? path = none)
    (hresolve : t.resolve path = .ok l) (hstands : t.isDirectory l = true) :
    saveFile t source path = failed t path := by
  have hwrite (content : Octets) : t.write path content = .error .isDirectory := by
    simp only [FileTree.write, hresolve, hstands, bind, Except.bind, if_true]
    rfl
  unfold saveFile
  rw [hpath]
  dsimp only
  split <;> rw [hwrite]

end Failure

end Storage

end Wireframe
