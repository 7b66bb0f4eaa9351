import Wireframe.Taxonomy.Basic

/-!
# The standard taxonomies

One for detectors that are trained on user interfaces, and a stand-in for detectors of everyday
objects.
-/
namespace Wireframe

namespace Taxonomy

/-- The aliases of each kind as the entries of one list. -/
def aliasEntries (groups : List (Kind × List Text)) : List (Text × Kind) :=
  groups.flatMap fun (kind, aliases) => aliases.map (·, kind)

def interface : Taxonomy :=
  ofAliases "ui" (aliasEntries [
    (.button, ["button", "btn", "text button", "textbutton", "image button", "fab"]),
    (.textField, ["text field", "textfield", "input", "edit text", "edittext", "search bar",
      "text input"]),
    (.text, ["text", "label", "text view", "textview", "heading", "title", "paragraph"]),
    (.container, ["container", "box", "rectangle", "card", "view", "panel", "list item"]),
    (.image, ["image", "picture", "photo", "image view", "imageview", "avatar"]),
    (.icon, ["icon", "glyph"]),
    (.checkbox, ["checkbox", "check box", "checked text view", "checkedtextview", "radio button",
      "radiobutton"]),
    (.switch, ["switch", "toggle", "on off switch"]),
    (.drawer, ["drawer", "navigation drawer", "side menu"]),
    (.modal, ["modal", "dialog", "popup", "bottom sheet", "alert"]),
    (.pageIndicator, ["page indicator", "pageindicator", "pager indicator", "dots"]),
    (.statusBar, ["status bar", "statusbar", "upper task bar", "uppertaskbar"])]) .unknown

def everyday : Taxonomy :=
  ofAliases "coco-demo" (aliasEntries [
    (.button, ["button", "remote", "cell phone"]),
    (.textField, ["textfield", "input", "keyboard"]),
    (.text, ["text", "label", "book"]),
    (.container, ["container", "box", "rectangle", "tv", "laptop"]),
    (.image, ["image", "picture", "person", "frisbee"]),
    (.icon, ["icon", "clock", "stop sign"])]) .unknown

/-- The taxonomy of that name, or the one for user interfaces. -/
def named (name : Text) : Taxonomy :=
  if name = everyday.name then everyday else interface

end Taxonomy

end Wireframe
