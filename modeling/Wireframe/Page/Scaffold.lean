import Wireframe.Dart.Block
import Wireframe.Dart.Indent
import Wireframe.Page.Name

/-!
# The page around the widgets

A page is a source file with one stateful widget class, whose body is the widget source.
-/
namespace Wireframe

namespace Page

open Dart

/-- How far the body stands to the right. -/
def bodyLevels : Nat := 5

/-- What a page without widgets shows. -/
def emptyBody : Text := "const SizedBox.shrink()"

/-- The page with a class name and a body in their places. -/
def scaffold (name body : Text) : Block := [
  "import 'package:flutter/material.dart';",
  "",
  ["class ", .name name, " extends StatefulWidget \x7b"],
  ["  const ", .name name, "(\x7bsuper.key\x7d);"],
  "",
  "  @override",
  ["  State<", .name name, "> createState() => _", .name name, "State();"],
  "\x7d",
  "",
  ["class _", .name name, "State extends State<", .name name, "> \x7b"],
  "  @override",
  "  Widget build(BuildContext context) \x7b",
  "    return Scaffold(",
  "      appBar: AppBar(",
  ["        title: const Text(", .literal name, "),"],
  "        centerTitle: true,",
  "      ),",
  "      body: SafeArea(",
  "        child: SingleChildScrollView(",
  "          padding: const EdgeInsets.all(16),",
  ["          child: ", .source body, ","],
  "        ),",
  "      ),",
  "    );",
  "  \x7d",
  "\x7d"]

/-- The source of the page with the given name around widget source. -/
def enclose (given body fallback : Text) : Text :=
  let content := if body.isEmpty then emptyBody else body
  (scaffold (PageName.ofText given fallback) (hangingIndent bodyLevels content)).source

end Page

end Wireframe
