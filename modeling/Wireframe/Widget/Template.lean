import Wireframe.Dart.Block
import Wireframe.Fault

/-!
# Widget templates

One template for each kind of element. A template makes a widget expression of the text and the
size of an element; all that it refers to besides is `context`, which the page provides.
-/
namespace Wireframe

/-- What a template shows. -/
structure Widget where
  text : Text
  width : Int
  height : Int
  deriving DecidableEq

namespace Widget

open Dart

def leastButtonHeight : Int := 48

def leastIconSize : Int := 24

def button (w : Widget) : Block := [
  "ElevatedButton(",
  "  onPressed: () \x7b\x7d,",
  "  style: ElevatedButton.styleFrom(",
  ["    minimumSize: Size(", .number w.width, ", ", .number (max w.height leastButtonHeight), "),"],
  "    shape: RoundedRectangleBorder(",
  "      borderRadius: BorderRadius.circular(12),",
  "    ),",
  "  ),",
  ["  child: Text(", .literal w.text, "),"],
  ")"]

def textField (w : Widget) : Block := [
  "TextField(",
  "  decoration: InputDecoration(",
  ["    labelText: ", .literal w.text, ","],
  ["    hintText: ", .literal (Text.ofString "Enter " ++ w.text.lower), ","],
  "    border: OutlineInputBorder(",
  "      borderRadius: BorderRadius.circular(12),",
  "    ),",
  "    filled: true,",
  "  ),",
  ")"]

def label (w : Widget) : Block := [
  "Text(",
  ["  ", .literal w.text, ","],
  "  style: Theme.of(context).textTheme.bodyLarge,",
  ")"]

def container (w : Widget) : Block := [
  "Container(",
  ["  width: ", .number w.width, ","],
  ["  height: ", .number w.height, ","],
  "  decoration: BoxDecoration(",
  "    color: Theme.of(context).colorScheme.surface,",
  "    borderRadius: BorderRadius.circular(12),",
  "    border: Border.all(",
  "      color: Theme.of(context).colorScheme.outline,",
  "    ),",
  "  ),",
  ")"]

def image (w : Widget) : Block := [
  "Container(",
  ["  width: ", .number w.width, ","],
  ["  height: ", .number w.height, ","],
  "  decoration: BoxDecoration(",
  "    color: Theme.of(context).colorScheme.surfaceContainerHighest,",
  "    borderRadius: BorderRadius.circular(12),",
  "  ),",
  "  child: Icon(",
  "    Icons.image,",
  "    size: 48,",
  "    color: Theme.of(context).colorScheme.onSurfaceVariant,",
  "  ),",
  ")"]

def icon (w : Widget) : Block := [
  "Icon(",
  "  Icons.star,",
  ["  size: ", .number (max w.height leastIconSize), ","],
  "  color: Theme.of(context).colorScheme.primary,",
  ")"]

def checkbox (w : Widget) : Block := [
  "CheckboxListTile(",
  "  value: false,",
  "  onChanged: (value) \x7b\x7d,",
  ["  title: Text(", .literal w.text, "),"],
  "  controlAffinity: ListTileControlAffinity.leading,",
  ")"]

def switch (w : Widget) : Block := [
  "SwitchListTile(",
  "  value: false,",
  "  onChanged: (value) \x7b\x7d,",
  ["  title: Text(", .literal w.text, "),"],
  ")"]

/-- Three dots, the first in the primary colour. -/
def pageIndicator : Block := [
  "Row(",
  "  mainAxisAlignment: MainAxisAlignment.center,",
  "  children: [",
  "    for (var i = 0; i < 3; i++)",
  "      Container(",
  "        width: 8,",
  "        height: 8,",
  "        margin: const EdgeInsets.symmetric(horizontal: 4),",
  "        decoration: BoxDecoration(",
  "          shape: BoxShape.circle,",
  "          color: i == 0",
  "              ? Theme.of(context).colorScheme.primary",
  "              : Theme.of(context).colorScheme.outlineVariant,",
  "        ),",
  "      ),",
  "  ],",
  ")"]

/-- The template of a kind. The page provides a status bar already, so nothing stands for one. -/
def block (w : Widget) : Kind → Block
  | .button => w.button
  | .textField => w.textField
  | .text => w.label
  | .container | .drawer | .modal | .unknown => w.container
  | .image => w.image
  | .icon => w.icon
  | .checkbox => w.checkbox
  | .switch => w.switch
  | .pageIndicator => pageIndicator
  | .statusBar => []

/-- The source of a widget that stands for an element of a kind. -/
def source (w : Widget) (kind : Kind) : Text := (w.block kind).source

end Widget

/-! ## Tables of templates -/

/-- The templates of some kinds. -/
abbrev TemplateTable := List (Kind × (Widget → Dart.Block))

namespace TemplateTable

/-- The table of the templates of the given kinds. -/
def ofKinds (kinds : List Kind) : TemplateTable := kinds.map fun kind => (kind, (·.block kind))

/-- The kinds that have no template, in the order of the kinds. -/
def missing (table : TemplateTable) : List Kind :=
  Kind.all.filter fun kind => !(table.map (·.1)).contains kind

/-- Refuses a table that leaves a kind without a template. -/
def check (table : TemplateTable) : Except Fault Unit :=
  if table.missing.isEmpty then .ok () else .error (.missingTemplates table.missing)

end TemplateTable

end Wireframe
