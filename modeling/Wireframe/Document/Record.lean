import Wireframe.Document.Conversion
import Wireframe.Element.Detection
import Wireframe.Taxonomy.Standard

/-!
# Records

A record is one detected element as a detector writes it down: raw labels, a confidence and a box
in one of three formats. It becomes a detection by deciding its kind and its rectangle.
-/
namespace Wireframe

/-- What the four numbers of a box mean. -/
inductive BoxFormat where
  /-- Left, top, width and height as parts of the image. -/
  | normalizedSize
  /-- Two corners as parts of the image. -/
  | normalizedCorners
  /-- Two corners in pixels. -/
  | pixelCorners
  deriving DecidableEq, Repr

/-- The corner of the image that heights are measured from. -/
inductive Origin where
  | topLeft
  | bottomLeft
  deriving DecidableEq, Repr

namespace BoxFormat

def names : List (Text × BoxFormat) :=
  [("normalized_xywh", normalizedSize), ("normalized_xyxy", normalizedCorners),
    ("pixel_xyxy", pixelCorners)]

def name : BoxFormat → Text
  | normalizedSize => "normalized_xywh"
  | normalizedCorners => "normalized_xyxy"
  | pixelCorners => "pixel_xyxy"

end BoxFormat

namespace Origin

def names : List (Text × Origin) := [("top_left", topLeft), ("bottom_left", bottomLeft)]

def name : Origin → Text
  | topLeft => "top_left"
  | bottomLeft => "bottom_left"

end Origin

/-- The four numbers of a box as they were written. -/
structure Box where
  a : Binary64
  b : Binary64
  c : Binary64
  d : Binary64
  deriving DecidableEq

structure Record where
  kind : Option Text
  className : Option Text
  label : Option Text
  confidence : Binary64
  box : Box
  boxFormat : BoxFormat
  origin : Origin
  deriving DecidableEq

namespace Record

open Checked Conversion

/-! ## Reading -/

/-- Confidences lie between zero and one. -/
def confidenceProblem (x : Binary64) : Option Problem :=
  if !x.le .one then some (.above 1) else if !Binary64.zero.le x then some (.below 0) else none

/-- A box is a list of four numbers. The items of a longer list do not count; what is wrong with
those of a shorter one counts more than its length. -/
def readBox : Json → Checked Box
  | .array items =>
    if 4 < items.length then problem (.tooLong 4 items.length)
    else match all number 0 items with
      | accepted [a, b, c, d] => accepted ⟨a, b, c, d⟩
      | accepted numbers => problem (.tooShort 4 numbers.length)
      | refused errors => refused errors
  | _ => problem .notList

/-- The record of an object's members. -/
def ofMembers (members : List (Text × Json)) : Checked Record :=
  Record.mk
    <$> field members "kind" (optional text) (pure none)
    <*> field members "class_name" (optional text) (pure none)
    <*> field members "label" (optional text) (pure none)
    <*> field members "confidence" (fun v => (number v).ensure confidenceProblem) (pure .one)
    <*> field members "bbox" readBox (problem .missing)
    <*> field members "bbox_format" (choice BoxFormat.names) (pure .normalizedSize)
    <*> field members "origin" (choice Origin.names) (pure .topLeft)

def read : Json → Checked Record
  | .object members => ofMembers members
  | _ => problem (.notObject "DetectionRecord")

/-! ## Kind and rectangle -/

/-- A text that is present and not empty. -/
def nonEmpty? : Option Text → Option Text
  | some (c :: rest) => some (c :: rest)
  | _ => none

/-- The raw label that is classified: the class name, the kind or the label, the first of them
that is not empty. -/
def rawLabel (r : Record) : Text :=
  (nonEmpty? r.className <|> nonEmpty? r.kind <|> nonEmpty? r.label).getD []

/-- The kind that the record names, or else that its raw label means. -/
def elementKind (r : Record) (taxonomyName : Text) : Kind :=
  match (nonEmpty? r.kind).bind Kind.ofName? with
  | some kind => kind
  | none => (Taxonomy.named taxonomyName).classify r.rawLabel

/-- A side of the image that is given and not zero. -/
def imageSide? : Option Binary64 → Option Binary64
  | some x => if x.units = 0 && x.isFinite then none else some x
  | none => none

/-- The rectangle before its origin is taken into account. -/
def storedRect (r : Record) (imageWidth imageHeight : Option Binary64) : Except Fault Rect :=
  match r.boxFormat with
  | .normalizedSize => .ok ⟨r.box.a, r.box.b, r.box.c, r.box.d⟩
  | .normalizedCorners => .ok (.ofCorners r.box.a r.box.b r.box.c r.box.d)
  | .pixelCorners =>
    match imageSide? imageWidth, imageSide? imageHeight with
    | some width, some height => Rect.ofPixelCorners r.box.a r.box.b r.box.c r.box.d width height
    | _, _ => .error .missingImageSize

/-- The rectangle of the record, measured from the top left corner. -/
def rect (r : Record) (imageWidth imageHeight : Option Binary64) : Except Fault Rect :=
  (r.storedRect imageWidth imageHeight).map fun stored =>
    match r.origin with
    | .topLeft => stored
    | .bottomLeft => stored.flipped

/-- The detection of the record. -/
def detection (r : Record) (taxonomyName : Text) (imageWidth imageHeight : Option Binary64) :
    Except Fault Detection :=
  (r.rect imageWidth imageHeight).map fun box =>
    ⟨r.elementKind taxonomyName, box, r.confidence, r.label⟩

end Record

end Wireframe
