import Wireframe.Element.Kind
import Wireframe.Table
import Wireframe.Taxonomy.NormalForm

/-!
# Taxonomies

A taxonomy says which kind of element a raw label means. Its aliases are labels in normal form;
a label means the kind of the alias that it equals, else the kind of the longest alias that
stands in it, the alphabetically first of the longest, else the fallback.
-/
namespace Wireframe

structure Taxonomy where
  name : Text
  aliases : Table Kind
  fallback : Kind

namespace Taxonomy

/-- The table of the normal forms of raw aliases. Of two with one normal form the last counts, and
one whose normal form is empty is left out. -/
def normalizeAliases (raw : List (Text × Kind)) : Table Kind :=
  raw.foldl (fun table (label, kind) =>
    if label.normalLabel.isEmpty then table else table.put label.normalLabel kind) []

/-- The taxonomy of raw aliases; a repeated alias counts with its last kind at its first place. -/
def ofAliases (name : Text) (raw : List (Text × Kind)) (fallback : Kind) : Taxonomy :=
  ⟨name, normalizeAliases (Table.ofEntries raw), fallback⟩

/-- Longer aliases come first, aliases of one length in the order of their texts. -/
def precedes (a b : Text × Kind) : Bool :=
  b.1.length < a.1.length || (a.1.length = b.1.length && a.1.le b.1)

/-- The aliases in the order in which they are looked for inside a label. -/
def inSearchOrder (t : Taxonomy) : List (Text × Kind) := t.aliases.mergeSort precedes

/-- The kind that a raw label means. -/
def classify (t : Taxonomy) (raw : Text) : Kind :=
  let label := raw.normalLabel
  if label.isEmpty then t.fallback
  else
    match t.aliases.get? label with
    | some kind => kind
    | none =>
      ((t.inSearchOrder.find? fun (part, _) => part.occursIn label).map (·.2)).getD t.fallback

/-- The aliases of a kind in the order of their texts. -/
def aliasesFor (t : Taxonomy) (kind : Kind) : List Text :=
  ((t.aliases.filter fun entry => entry.2 = kind).map (·.1)).mergeSort Text.le

/-- The taxonomy under a new name with further aliases, which override its own. -/
def extend (t : Taxonomy) (name : Text) (extra : List (Text × Kind)) : Taxonomy :=
  ⟨name, normalizeAliases (t.aliases.putAll extra), t.fallback⟩

end Taxonomy

end Wireframe
