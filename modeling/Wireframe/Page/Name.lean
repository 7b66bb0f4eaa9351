import Wireframe.Dart.Words

/-!
# Page names

The name of a page is the name of its class. It is made of ASCII letters and digits, starts with
a letter and is no word that the language or the page itself uses.
-/
namespace Wireframe

namespace PageName

def standard : Text := "GeneratedPage"

/-- Without everything but ASCII letters and digits. -/
def cleaned (given : Text) : Text := given.filter CodePoint.isAlphanumeric

/-- Whether a text of letters and digits can name a page class. -/
def isUsable (name : Text) : Bool :=
  name.head?.any CodePoint.isLetter && !Dart.takenNames.contains name

/-- The class name for a page of the given name, or else `fallback`. -/
def ofText (given fallback : Text) : Text :=
  if isUsable (cleaned given) then cleaned given else fallback

end PageName

end Wireframe
