import Wireframe.Text.Basic

/-!
# Words that cannot name a page class
-/
namespace Wireframe

namespace Dart

/-- Reserved words and built-in identifiers. -/
def reservedWords : List Text := List.map Text.ofString [
  "abstract", "as", "assert", "async", "await", "base", "break", "case", "catch", "class",
  "const", "continue", "covariant", "default", "deferred", "do", "dynamic", "else", "enum",
  "export", "extends", "extension", "external", "factory", "false", "final", "finally", "for",
  "Function", "get", "hide", "if", "implements", "import", "in", "interface", "is", "late",
  "library", "mixin", "new", "null", "of", "on", "operator", "part", "required", "rethrow",
  "return", "sealed", "set", "show", "static", "super", "switch", "sync", "this", "throw",
  "true", "try", "type", "typedef", "var", "void", "when", "while", "with", "yield"]

/-- The library names that pages and widgets refer to; a class of that name would hide them. -/
def flutterNames : List Text := List.map Text.ofString [
  "AppBar", "Border", "BorderRadius", "BoxDecoration", "BoxShape", "BuildContext",
  "CheckboxListTile", "Column", "Container", "CrossAxisAlignment", "EdgeInsets",
  "ElevatedButton", "Expanded", "Icon", "Icons", "InputDecoration", "ListTileControlAffinity",
  "MainAxisAlignment", "OutlineInputBorder", "RoundedRectangleBorder", "Row", "SafeArea",
  "Scaffold", "SingleChildScrollView", "Size", "SizedBox", "State", "StatefulWidget",
  "SwitchListTile", "Text", "TextField", "Theme", "Widget"]

/-- The annotations of a page. -/
def annotations : List Text := ["override"]

def takenNames : List Text := reservedWords ++ flutterNames ++ annotations

end Dart

end Wireframe
