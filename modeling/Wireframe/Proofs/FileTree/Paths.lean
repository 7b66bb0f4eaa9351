import Mathlib.Data.List.DropRight
import Wireframe.FileTree.Access
import Wireframe.Proofs.Text.Parts

/-!
# Where paths lead

A path can be followed by its names alone or through the tree. Where the tree lets it lead at all,
both ways lead to the same place (`locate_of_resolve`), by the last name of the path from where the
others lead to. There the directory path leads too, if there is one (`locate_directoryPath`). If
directories alone are on the way, then a path that does not lead to one of them leads to a name in
the last of them (`exists_name_of_resolve`).
-/
namespace Wireframe

namespace FileTree

/-! ## The names of a path -/

theorem segments_append (a b : Text) : segments (a ++ slash :: b) = segments a ++ segments b := by
  simp only [segments, Text.splitOn_eq_splitOnP, ← List.map_append]
  exact congrArg _ (List.splitOnP_append_cons a b (decide_eq_true rfl))

theorem segments_of_not_mem {name : Text} (h : slash ∉ name) :
    segments name = [Utf8.asRead name] := by
  have hsplit : Text.splitOn slash name = [name] := by
    rw [Text.splitOn_eq_splitOnP]
    exact List.splitOnP_eq_singleton fun c hc => decide_eq_false fun heq => h (heq ▸ hc)
  rw [segments, hsplit, List.map_singleton]

theorem segments_ne_nil (path : Text) : segments path ≠ [] :=
  mt List.map_eq_nil_iff.1 (Text.splitOn_ne_nil slash path)

/-- Slashes at the end of a path lead nowhere else. -/
theorem foldl_follow_trimEnd (l : Location) (path : Text) :
    (segments (path.rdropWhile (· = slash))).foldl follow l = (segments path).foldl follow l := by
  induction path using List.reverseRecOn with
  | nil => rfl
  | append_singleton path c ih =>
    rw [List.rdropWhile_concat]
    split
    · next hc =>
      rw [ih, decide_eq_true_iff.1 hc, segments_append, List.foldl_append]
      rfl
    · rfl

/-! ## The directory of a path -/

/-- The directory path is what stands up to the last slash of a path, without the slashes at its
end unless there is nothing else. -/
theorem directoryPath_eq (path : Text) :
    directoryPath path =
      let upTo := path.rdropWhile (· ≠ slash)
      let trimmed := upTo.rdropWhile (· = slash)
      if trimmed.isEmpty then upTo else trimmed := rfl

example : directoryPath "lib//a" = Text.ofString "lib" ∧
    directoryPath "//a" = Text.ofString "//" ∧ directoryPath "a" = [] := by
  decide +kernel

theorem directoryPath_eq_nil_iff {path : Text} : directoryPath path = [] ↔ slash ∉ path := by
  have hupTo : path.rdropWhile (· ≠ slash) = [] ↔ slash ∉ path := by
    rw [List.rdropWhile_eq_nil_iff]
    constructor
    · intro h hmem
      simpa using h slash hmem
    · intro h c hc
      simpa using fun heq : c = slash => h (heq ▸ hc)
  rw [← hupTo, directoryPath_eq]
  dsimp only
  split
  · rfl
  · next hne =>
    refine ⟨fun h => absurd (List.isEmpty_iff.2 h) hne, ?_⟩
    intro h
    rw [h, List.rdropWhile_nil]

theorem isEmpty_directoryPath_iff {path : Text} :
    (directoryPath path).isEmpty = true ↔ slash ∉ path :=
  List.isEmpty_iff.trans directoryPath_eq_nil_iff

theorem directoryPath_isPrefix (path : Text) : directoryPath path <+: path := by
  have hupTo := List.rdropWhile_prefix (· ≠ slash) path
  rw [directoryPath_eq]
  dsimp only
  split
  · exact hupTo
  · exact (List.rdropWhile_prefix _ _).trans hupTo

/-- A path with a slash is what stands up to its last slash and a name. -/
theorem exists_lastSlash {path : Text} (h : slash ∈ path) :
    ∃ front name, slash ∉ name ∧ path = front ++ slash :: name ∧
      path.rdropWhile (· ≠ slash) = front ++ [slash] := by
  have hparts : path.rdropWhile (· ≠ slash) ++ path.rtakeWhile (· ≠ slash) = path :=
    List.rdropWhile_append_rtakeWhile
  have hname : slash ∉ path.rtakeWhile (· ≠ slash) := fun hmem => by
    simpa using List.mem_rtakeWhile_imp hmem
  have hne : path.rdropWhile (· ≠ slash) ≠ [] := by
    rw [Ne, List.rdropWhile_eq_nil_iff]
    intro hall
    simpa using hall slash h
  have hlast : (path.rdropWhile (· ≠ slash)).getLast hne = slash := by
    simpa using List.rdropWhile_last_not (· ≠ slash) path hne
  have hupTo := List.dropLast_append_getLast hne
  rw [hlast] at hupTo
  refine ⟨_, _, hname, ?_, hupTo.symm⟩
  rw [← List.singleton_append, ← List.append_assoc, hupTo, hparts]

/-- Where all names of a path but the last lead to. -/
def parentOf (t : FileTree) (path : Text) : Location :=
  (segments path).dropLast.foldl follow (t.start path)

/-- The directory path leads to where all names but the last lead to. -/
theorem locate_directoryPath {t : FileTree} {path : Text} (h : slash ∈ path) :
    t.locate (directoryPath path) = t.parentOf path := by
  have hstart : t.start (directoryPath path) = t.start path := by
    obtain ⟨rest, hrest⟩ := directoryPath_isPrefix path
    have hne : directoryPath path ≠ [] := fun hnil => directoryPath_eq_nil_iff.1 hnil h
    rw [start, start, ← hrest, List.head?_append_of_ne_nil _ hne, hrest]
  obtain ⟨front, name, hname, hpath, hupTo⟩ := exists_lastSlash h
  -- Up to the last slash there is one name more, and it is empty.
  have hfront (l : Location) : (segments (front ++ [slash])).foldl follow l =
      (segments front).foldl follow l := by
    rw [segments_append, List.foldl_append]
    rfl
  have hdropLast : (segments path).dropLast = segments front := by
    rw [hpath, segments_append, segments_of_not_mem hname, List.dropLast_concat]
  rw [locate, parentOf, hstart, hdropLast, ← hfront, directoryPath_eq, hupTo]
  dsimp only
  split
  · rfl
  · exact foldl_follow_trimEnd _ _

theorem parentOf_of_not_mem {t : FileTree} {path : Text} (h : slash ∉ path) :
    t.parentOf path = t.here := by
  have hstart : path.head? ≠ some slash := fun hhead => h (List.mem_of_mem_head? hhead)
  rw [parentOf, segments_of_not_mem h, start, if_neg hstart]
  rfl

/-! ## Following a path through the tree -/

theorem locate_congr {t t' : FileTree} (h : t'.here = t.here) (path : Text) :
    t'.locate path = t.locate path := by
  rw [locate, locate, start, start, h]

theorem parentOf_congr {t t' : FileTree} (h : t'.here = t.here) (path : Text) :
    t'.parentOf path = t.parentOf path := by
  rw [parentOf, parentOf, start, start, h]

theorem foldl_follow_of_walk {t : FileTree} {names : List Text} {l l' : Location}
    (h : t.walk l names = .ok l') : l' = names.foldl follow l := by
  induction names generalizing l with
  | nil =>
    cases h
    rfl
  | cons name rest ih =>
    rw [walk] at h
    split at h
    · cases h
    · cases h
    · split at h
      · cases h
      · exact ih h

theorem resolve_eq_ok_iff {t : FileTree} {path : Text} {l : Location} :
    t.resolve path = .ok l ↔ ¬ path.isEmpty = true ∧ ¬ isPathTooLong path = true ∧
      t.walk (t.start path) (segments path) = .ok l := by
  constructor
  · intro h
    rw [resolve] at h
    split at h
    · cases h
    · next hempty =>
      split at h
      · cases h
      · next hlong => exact ⟨hempty, hlong, h⟩
  · rintro ⟨hempty, hlong, hwalk⟩
    rw [resolve, if_neg hempty, if_neg hlong, hwalk]

/-- A path that leads somewhere leads to where its names alone lead. -/
theorem locate_of_resolve {t : FileTree} {path : Text} {l : Location}
    (h : t.resolve path = .ok l) : t.locate path = l :=
  (foldl_follow_of_walk (resolve_eq_ok_iff.1 h).2.2).symm

/-- Its last name leads there from where the others lead to. -/
theorem exists_locate_eq_follow (t : FileTree) (path : Text) :
    ∃ name, t.locate path = follow (t.parentOf path) name := by
  obtain ⟨front, name, hsegments⟩ :
      ∃ front name, segments path = front ++ [name] :=
    ⟨_, _, (List.dropLast_concat_getLast (segments_ne_nil path)).symm⟩
  refine ⟨name, ?_⟩
  rw [locate, parentOf, hsegments, List.dropLast_concat, List.foldl_append]
  rfl

/-! ## Ways through directories -/

/-- A location that is reached through directories alone and is one itself. -/
def Reaches (t : FileTree) (l : Location) : Prop := ∀ k, k <+: l → t.node? k = some .directory

theorem reaches_root (t : FileTree) : t.Reaches [] := by
  intro k hk
  rw [List.prefix_nil.1 hk]
  rfl

theorem Reaches.concat {t : FileTree} {l : Location} {name : Text} (h : t.Reaches l)
    (hname : t.node? (l ++ [name]) = some .directory) : t.Reaches (l ++ [name]) := by
  intro k hk
  rcases List.prefix_concat_iff.1 hk with rfl | hk
  · exact hname
  · exact h k hk

/-- If directories alone are on the way, then a path that does not lead to one of them leads to a
name in the last of them. -/
theorem exists_name_of_resolve {t : FileTree} {path : Text} {l : Location}
    (h : t.resolve path = .ok l) (hreaches : t.Reaches (t.parentOf path))
    (hstands : t.node? l ≠ some .directory) : ∃ name, l = t.parentOf path ++ [name] := by
  obtain ⟨name, hfollow⟩ := t.exists_locate_eq_follow path
  rw [locate_of_resolve h] at hfollow
  have hout (k : Location) (hk : k <+: t.parentOf path) : l ≠ k := by
    rintro rfl
    exact hstands (hreaches _ hk)
  rw [follow] at hfollow
  split at hfollow
  · exact absurd hfollow (hout _ List.prefix_rfl)
  · split at hfollow
    · exact absurd hfollow (hout _ (List.dropLast_prefix _))
    · exact ⟨name, hfollow⟩

end FileTree

end Wireframe
