import Wireframe.FileTree.Path

/-!
# Reading and writing

What can be done with a tree by paths. Writing changes one file; making a directory makes all
directories above it that are missing, from the root down, and keeps those it made if it comes to
a name where no directory can be.

Main statements: `node?_write` and `node?_makeDirectories`, what stands where afterwards.
-/
namespace Wireframe

namespace FileTree

/-- Whether a path leads to something. -/
def contains (t : FileTree) (path : Text) : Bool :=
  match t.resolve path with
  | .ok l => (t.node? l).isSome
  | .error _ => false

/-- The content of a file. -/
def read (t : FileTree) (path : Text) : Except AccessError Octets := do
  match t.node? (← t.resolve path) with
  | some (.file content) => return content
  | some .directory => throw .isDirectory
  | none => throw .missing

/-- Gives a file a content; the file may be new. -/
def write (t : FileTree) (path : Text) (content : Octets) : Except AccessError FileTree := do
  let l ← t.resolve path
  if t.isDirectory l then throw .isDirectory else return t.put l (.file content)

/-- Makes the directories with the given names, one in another, from a location down. -/
def makeDirectories (t : FileTree) (l : Location) :
    List Text → FileTree × Except AccessError Location
  | [] => (t, .ok l)
  | name :: rest => match t.node? (l ++ [name]) with
    | some .directory => makeDirectories t (l ++ [name]) rest
    | some (.file _) => (t, .error (if rest.isEmpty then .alreadyThere else .notDirectory))
    | none =>
      if isNameTooLong name then (t, .error .nameTooLong)
      else makeDirectories (t.put (l ++ [name]) .directory) (l ++ [name]) rest

/-- Makes the directory of a path, unless it is there. -/
def provideDirectory (t : FileTree) (path : Text) : FileTree × Except AccessError Location :=
  let l := t.locate path
  if isPathTooLong (slash :: pathOf l) then (t, .error .nameTooLong) else makeDirectories t [] l

/-! ## Lemmas -/

theorem node?_write {t t' : FileTree} {path : Text} {content : Octets}
    (h : t.write path content = .ok t') :
    ∃ l, t.resolve path = .ok l ∧ t.node? l ≠ some .directory ∧
      ∀ k, t'.node? k = if k = l then some (.file content) else t.node? k := by
  unfold write at h
  cases hr : t.resolve path with
  | error e => simp [hr, bind, Except.bind] at h
  | ok l =>
    simp only [hr, bind, Except.bind, isDirectory] at h
    by_cases hd : t.node? l = some .directory
    · simp [hd, throw, throwThe, MonadExceptOf.throw] at h
    · refine ⟨l, rfl, hd, fun k => ?_⟩
      have hl : l ≠ [] := fun e => hd (by rw [e]; rfl)
      simp only [hd, decide_false, Bool.false_eq_true, if_false, pure, Except.pure,
        Except.ok.injEq] at h
      rw [← h]
      exact node?_put t _ hl k

theorem here_makeDirectories (t : FileTree) (l : Location) (names : List Text) :
    ((makeDirectories t l names).1).here = t.here := by
  induction names generalizing t l with
  | nil => rfl
  | cons name rest ih =>
    unfold makeDirectories
    split
    · exact ih t _
    · rfl
    · split
      · rfl
      · rw [ih, here_put]

theorem node?_makeDirectories (t : FileTree) (l : Location) (names : List Text) (k : Location) :
    ((makeDirectories t l names).1).node? k = t.node? k ∨
      (k <+: l ++ names ∧ t.node? k = none ∧
        ((makeDirectories t l names).1).node? k = some .directory) := by
  induction names generalizing t l with
  | nil => exact .inl rfl
  | cons name rest ih =>
    have hnames : l ++ name :: rest = (l ++ [name]) ++ rest := by simp
    rw [hnames]
    unfold makeDirectories
    split
    · exact ih t _
    · exact .inl rfl
    · rename_i hnone
      split
      · exact .inl rfl
      · have hput := node?_put t .directory (l := l ++ [name]) (by simp) k
        by_cases hk : k = l ++ [name]
        · rw [if_pos hk] at hput
          refine .inr ⟨hk ▸ List.prefix_append _ _, hk ▸ hnone, ?_⟩
          rcases ih (t.put (l ++ [name]) .directory) (l ++ [name]) with h | h
          · rw [h, hput]
          · exact h.2.2
        · rw [if_neg hk] at hput
          rw [← hput]
          exact ih _ _

end FileTree

end Wireframe
