import Wireframe.Document.Record
import Wireframe.Log.Basic

/-!
# Documents

A document is what a detector hands over: records of detected elements, and what it knows about
the page and its image. A bare list of records is a document too.
-/
namespace Wireframe

structure Document where
  pageName : Option Text
  imageWidth : Option Binary64
  imageHeight : Option Binary64
  taxonomy : Text
  records : List Record
  deriving DecidableEq

namespace Document

open Checked Conversion

/-! ## Reading -/

/-- Sides of an image are positive. -/
def sideProblem (x : Binary64) : Option Problem :=
  if !Binary64.zero.lt x then some (.notAbove 0) else none

/-- A side of the image, or null. -/
def readSide : Json → Checked (Option Binary64) :=
  optional fun v => (number v).ensure sideProblem

/-- The document of an object's members. -/
def ofMembers (members : List (Text × Json)) : Checked Document :=
  Document.mk
    <$> field members "page_name" (optional text) (pure none)
    <*> field members "image_width" readSide (pure none)
    <*> field members "image_height" readSide (pure none)
    <*> field members "taxonomy" text (pure Taxonomy.interface.name)
    <*> field members "detections" (list Record.read) (pure [])

/-- Boxes in pixels need the size of the image. -/
def sizeProblem (d : Document) : Option Problem :=
  if d.records.any (·.boxFormat = .pixelCorners) &&
      (d.imageWidth.isNone || d.imageHeight.isNone) then some .noImageSize
  else none

/-- The document that a JSON value describes. -/
def read : Json → Checked Document
  | .array items => (ofMembers [("detections", .array items)]).ensure sizeProblem
  | .object members => (ofMembers members).ensure sizeProblem
  | _ => problem (.notObject "DetectionDocument")

/-- The document of a value that comes from `source`. -/
def parse (v : Json) (source : Option Text) : Except Fault Document :=
  match read v with
  | accepted document => .ok document
  | refused errors => .error (.invalidDocument source errors)

/-! ## Detections -/

/-- The records whose confidence is not below the least one. -/
def kept (d : Document) (minConfidence : Binary64) : List Record :=
  d.records.filter fun r => !r.confidence.lt minConfidence

/-- The detections of the records that are kept. -/
def detections (d : Document) (minConfidence : Binary64) : Except Fault (List Detection) :=
  (d.kept minConfidence).mapM fun r => r.detection d.taxonomy d.imageWidth d.imageHeight

/-- What is logged about the records that are dropped. -/
def dropEntries (d : Document) (minConfidence : Binary64) : List Log.Entry :=
  let dropped := d.records.length - (d.kept minConfidence).length
  if dropped = 0 then []
  else [Log.entry .debug (.concat ["Dropped ", .ofNat dropped, " detections below confidence ",
    minConfidence.twoPlaces])]

end Document

end Wireframe
