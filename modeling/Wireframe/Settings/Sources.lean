import Wireframe.Document.Conversion
import Wireframe.Settings.Basic
import Wireframe.Settings.Bindings
import Wireframe.Text.Lowercase

/-!
# Where settings come from

A setting is taken from what the caller gives, else from the environment, else from a file of
bindings, else it keeps its standard value. Variables are named after the settings, whatever the
case of their letters; what names no setting does not count.

Main statement: `value?_eq_given`, what the caller gives wins over all variables.
-/
namespace Wireframe

namespace Settings

/-- All that settings are taken from. -/
structure Sources where
  /-- The variables of the environment. -/
  environment : List Binding
  /-- The bindings of a file. -/
  file : List Binding
  /-- What the caller gives, by the names of the settings. -/
  given : List (Text × Json)

namespace Sources

/-- What the names of all variables start with, in lower case. -/
def namespaceName : Text := "devsketch_"

/-- The values of variables by their names in lower case: of one name the last value counts, and
of names that differ in case the one that was first named last. -/
def valuesByName (bindings : List Binding) : Table (Option Text) :=
  let exact := Table.ofEntries (bindings.map fun b => (b.name, b.value))
  Table.ofEntries (exact.map fun (name, value) => (name.lower, value))

/-- The value that variables give to a setting. -/
def assigned? (bindings : List Binding) (name : Text) : Option Json :=
  ((valuesByName bindings).get? (namespaceName ++ name)).join.map Json.string

/-- The bindings of the file, whose references find the environment too. -/
def expandedFile (s : Sources) : List Binding :=
  Binding.expandAll (Table.ofEntries (s.environment.map fun b => (b.name, b.value))) s.file

/-- The value of a setting from the first source that has one. -/
def value? (s : Sources) (name : Text) : Option Json :=
  Table.get? s.given name <|> assigned? s.environment name <|> assigned? s.expandedFile name

theorem value?_eq_given {s : Sources} {name : Text} {v : Json}
    (h : Table.get? s.given name = some v) : s.value? name = some v := by
  simp [value?, h]

end Sources

open Conversion

/-- The names of the settings. -/
def names : List Text := ["reference_width", "reference_height", "row_threshold", "row_strategy",
  "column_gap", "default_page_name", "preview_limit", "min_confidence", "log_level", "log_to_file",
  "logs_dir"]

/-- The usual name of the variable that gives a setting. -/
def variableName (name : Text) : Text := (Sources.namespaceName ++ name).toAsciiUpper

/-- One setting: the value that the sources give, or the standard one. -/
def fromSources {α : Type} (s : Sources) (name : Text) (read : Json → Checked α) (standard : α) :
    Checked α :=
  Checked.under (.field name) (match s.value? name with
    | some v => read v
    | none => pure standard)

/-- The settings that the sources give. -/
def ofSources (s : Sources) : Checked Settings :=
  Settings.mk
    <$> fromSources s "reference_width" whole standard.referenceWidth
    <*> fromSources s "reference_height" whole standard.referenceHeight
    <*> fromSources s "row_threshold" number standard.rowThreshold
    <*> fromSources s "row_strategy" text standard.rowStrategy
    <*> fromSources s "column_gap" whole standard.columnGap
    <*> fromSources s "default_page_name" text standard.defaultPageName
    <*> fromSources s "preview_limit" whole standard.previewLimit
    <*> fromSources s "min_confidence" number standard.minConfidence
    <*> fromSources s "log_level" text standard.logLevel
    <*> fromSources s "log_to_file" flag standard.logToFile
    <*> fromSources s "logs_dir" text standard.logsDir

end Settings

end Wireframe
