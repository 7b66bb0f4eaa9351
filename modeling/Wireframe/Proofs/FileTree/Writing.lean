import Wireframe.Proofs.FileTree.Paths
import Wireframe.Proofs.Steps

/-!
# What writing changes

Making directories adds directories on the way to one and changes nothing else
(`directoriesAdded_provideDirectory`), and they are all there in the end
(`reaches_provideDirectory`). Writing changes what stands at one location, which is no directory,
so that a path still leads where it led (`resolve_of_write`). What is there already is not made or
written again: done twice, either leaves the tree that it left when it was done once
(`provideDirectory_eq_self`, `write_of_write`).
-/
namespace Wireframe

namespace FileTree

/-! ## Directories on a way -/

/-- The second tree is the first with directories where nothing stood, on the way to a location. -/
structure DirectoriesAdded (before after : FileTree) (l : Location) : Prop where
  here : after.here = before.here
  node? : ∀ k, after.node? k = before.node? k ∨
    (k <+: l ∧ before.node? k = none ∧ after.node? k = some .directory)

namespace DirectoriesAdded

variable {before after : FileTree} {l : Location}

theorem refl (t : FileTree) (l : Location) : DirectoriesAdded t t l := ⟨rfl, fun _ => .inl rfl⟩

/-- No file comes, goes or changes. -/
theorem file_iff (h : DirectoriesAdded before after l) (k : Location) (content : Octets) :
    after.node? k = some (.file content) ↔ before.node? k = some (.file content) := by
  rcases h.node? k with hsame | ⟨-, hbefore, hafter⟩
  · rw [hsame]
  · rw [hbefore, hafter]
    simp

end DirectoriesAdded

theorem directoriesAdded_provideDirectory {t t' : FileTree} {path : Text}
    {result : Except AccessError Location} (h : t.provideDirectory path = (t', result)) :
    DirectoriesAdded t t' (t.locate path) := by
  have htree : t' = (t.provideDirectory path).1 := by rw [h]
  rw [htree]
  unfold provideDirectory
  dsimp only
  split
  · exact .refl t _
  · exact ⟨here_makeDirectories t [] _, node?_makeDirectories t [] _⟩

theorem Reaches.put_directory {t : FileTree} {l : Location} {name : Text} (h : t.Reaches l) :
    (t.put (l ++ [name]) .directory).Reaches (l ++ [name]) := by
  intro k hk
  rw [node?_put t .directory (by simp)]
  split
  · rfl
  · next hne => exact h k ((List.prefix_concat_iff.1 hk).resolve_left hne)

theorem reaches_makeDirectories {t t' : FileTree} {l l' : Location} {names : List Text}
    (hl : t.Reaches l) (h : t.makeDirectories l names = (t', .ok l')) :
    t'.Reaches (l ++ names) := by
  induction names generalizing t l with
  | nil =>
    cases h
    rwa [List.append_nil]
  | cons name rest ih =>
    rw [List.append_cons]
    unfold makeDirectories at h
    split at h
    · next hstands => exact ih (hl.concat hstands) h
    · cases h
    · split at h
      · cases h
      · exact ih hl.put_directory h

/-- No directory is made where all of them are there. -/
theorem makeDirectories_eq_self {t : FileTree} {l : Location} {names : List Text}
    (h : t.Reaches (l ++ names)) : t.makeDirectories l names = (t, .ok (l ++ names)) := by
  induction names generalizing l with
  | nil => rw [makeDirectories, List.append_nil]
  | cons name rest ih =>
    rw [List.append_cons] at h ⊢
    rw [makeDirectories, h _ (List.prefix_append _ _)]
    exact ih h

theorem reaches_provideDirectory {t t' : FileTree} {path : Text} {l : Location}
    (h : t.provideDirectory path = (t', .ok l)) : t'.Reaches (t.locate path) := by
  unfold provideDirectory at h
  dsimp only at h
  split at h
  · cases h
  · exact reaches_makeDirectories (reaches_root t) h

/-- A directory that was provided is not provided again as long as it is there. -/
theorem provideDirectory_eq_self {t made t' : FileTree} {path : Text} {l : Location}
    (h : t.provideDirectory path = (made, .ok l)) (hhere : t'.here = t.here)
    (hreaches : t'.Reaches (t.locate path)) :
    t'.provideDirectory path = (t', .ok (t.locate path)) := by
  unfold provideDirectory at h ⊢
  rw [locate_congr hhere]
  dsimp only at h ⊢
  split at h
  · cases h
  · next hshort =>
    rw [if_neg hshort]
    exact makeDirectories_eq_self hreaches

/-! ## Writing a file -/

theorem write_eq_ok_iff {t t' : FileTree} {path : Text} {content : Octets} :
    t.write path content = .ok t' ↔
      ∃ l, t.resolve path = .ok l ∧ t.node? l ≠ some .directory ∧ t' = t.put l (.file content) := by
  constructor
  · intro h
    obtain ⟨l, hresolve, h⟩ := bind_eq_ok h
    split at h
    · cases h
    · next hstands =>
      cases h
      exact ⟨l, hresolve, fun heq => hstands (decide_eq_true heq), rfl⟩
  · rintro ⟨l, hresolve, hstands, rfl⟩
    rw [write, hresolve]
    exact if_neg fun h => hstands (of_decide_eq_true h)

theorem here_write {t t' : FileTree} {path : Text} {content : Octets}
    (h : t.write path content = .ok t') : t'.here = t.here := by
  obtain ⟨l, -, -, rfl⟩ := write_eq_ok_iff.1 h
  exact here_put t l _

/-- What was put is there, and it can be put again to no effect. -/
theorem put_eq_self {t : FileTree} {l : Location} {node : Node} (h : t.node? l = some node) :
    t.put l node = t := by
  have hentries (entries : List (Location × Node)) (hstands : entries.lookup l = some node) :
      putEntry l node entries = entries := by
    induction entries with
    | nil => cases hstands
    | cons entry rest ih =>
      obtain ⟨k, n⟩ := entry
      rw [putEntry]
      by_cases hk : k = l
      · subst hk
        rw [List.lookup_cons_self] at hstands
        rw [if_pos rfl, Option.some.inj hstands]
      · rw [List.lookup_cons, beq_eq_false_iff_ne.2 (Ne.symm hk)] at hstands
        rw [if_neg hk, ih hstands]
  rw [put]
  split
  · rfl
  · next hl =>
    rw [node?, if_neg hl] at h
    rw [hentries t.entries h]

/-- A way through directories stays a way as long as these stay. -/
theorem walk_of_directories {t t' : FileTree}
    (h : ∀ k, t.node? k = some .directory → t'.node? k = some .directory)
    {names : List Text} {l l' : Location} (hwalk : t.walk l names = .ok l') :
    t'.walk l names = .ok l' := by
  induction names generalizing l with
  | nil => exact hwalk
  | cons name rest ih =>
    rw [walk] at hwalk
    split at hwalk
    · cases hwalk
    · cases hwalk
    · next hstands =>
      rw [walk, h l hstands]
      dsimp only
      split at hwalk
      · cases hwalk
      · next hname =>
        rw [if_neg hname]
        exact ih hwalk

section Write

variable {t t' : FileTree} {path : Text} {content : Octets}

theorem directory_of_write (h : t.write path content = .ok t') {k : Location}
    (hk : t.node? k = some .directory) : t'.node? k = some .directory := by
  obtain ⟨l, -, hstands, hnode⟩ := node?_write h
  rw [hnode, if_neg, hk]
  rintro rfl
  exact hstands hk

theorem Reaches.of_write {k : Location} (hk : t.Reaches k) (h : t.write path content = .ok t') :
    t'.Reaches k := fun _ hprefix => directory_of_write h (hk _ hprefix)

/-- The path of the file leads where it led. -/
theorem resolve_of_write (h : t.write path content = .ok t') {l : Location}
    (hresolve : t.resolve path = .ok l) : t'.resolve path = .ok l := by
  have hstart : t'.start path = t.start path := by rw [start, start, here_write h]
  obtain ⟨hempty, hlong, hwalk⟩ := resolve_eq_ok_iff.1 hresolve
  refine resolve_eq_ok_iff.2 ⟨hempty, hlong, ?_⟩
  rw [hstart]
  exact walk_of_directories (fun _ hk => directory_of_write h hk) hwalk

/-- What was written is read at the same path. -/
theorem read_of_write (h : t.write path content = .ok t') : t'.read path = .ok content := by
  obtain ⟨l, hresolve, -, hnode⟩ := node?_write h
  rw [read, resolve_of_write h hresolve]
  simp only [bind, Except.bind, hnode]
  rfl

/-- Writing the same again changes nothing. -/
theorem write_of_write (h : t.write path content = .ok t') : t'.write path content = .ok t' := by
  obtain ⟨l, hresolve, -, hnode⟩ := node?_write h
  have hfile : t'.node? l = some (.file content) := by rw [hnode, if_pos rfl]
  refine write_eq_ok_iff.2 ⟨l, resolve_of_write h hresolve, ?_, (put_eq_self hfile).symm⟩
  rw [hfile]
  exact fun heq => by cases heq

end Write

/-! ## Files put in a tree -/

/-- The second tree is the first with a file of this content at a path. There may be directories
above the file where nothing stood before, and if the first tree is seen from a directory that is
reached through directories, then all that are missing have been made; the rest is as it was. -/
structure FilePut (before after : FileTree) (path : Text) (content : Octets) : Prop where
  here : after.here = before.here
  read : after.read path = .ok content
  resolve : after.resolve path = .ok (before.locate path)
  node?_self : after.node? (before.locate path) = some (.file content)
  node? : ∀ k, k ≠ before.locate path → after.node? k = before.node? k ∨
    (k <+: before.locate path ∧ before.node? k = none ∧ after.node? k = some .directory)
  above : before.Reaches before.here → after.Reaches (before.locate path).dropLast

end FileTree

end Wireframe
