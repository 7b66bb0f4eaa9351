import Wireframe.Proofs.Document.Reading
import Wireframe.Proofs.Number.Order
import Wireframe.Proofs.Steps

/-!
# Detections of an accepted document

A record is converted unless its box is in pixels and the image has no positive size
(`Record.exists_rect`), and an accepted document has no such record. So all records that are kept
become detections, one each and in their order (`detections_of_parse`), and what is kept is no less
confident than was asked for (`confidence_of_parse`).
-/
namespace Wireframe

/-! ## Records -/

namespace Record

open Binary64

theorem imageSide?_eq_some {x : Binary64} (h : zero.lt x = true) :
    imageSide? (some x) = some x := by
  obtain ⟨-, -, hunits⟩ := lt_iff.1 h
  have hzero : zero.units = 0 := rfl
  have hne : x.units ≠ 0 := by omega
  simp [imageSide?, hne]

theorem exists_ofPixelCorners {width height : Binary64} (hwidth : zero.lt width = true)
    (hheight : zero.lt height = true) (a b c d : Binary64) :
    ∃ box, Rect.ofPixelCorners a b c d width height = .ok box := by
  have hnot {x : Binary64} (h : zero.lt x = true) : x.le zero = false := by
    rw [← Bool.not_eq_true, le_iff]
    rintro ⟨-, -, hle⟩
    obtain ⟨-, -, hlt⟩ := lt_iff.1 h
    omega
  simp [Rect.ofPixelCorners, hnot hwidth, hnot hheight]

/-- A record has a rectangle if the image has positive sides, or its box is not in pixels. -/
theorem exists_rect {r : Record} {imageWidth imageHeight : Option Binary64}
    (h : r.boxFormat = .pixelCorners → (∃ x ∈ imageWidth, zero.lt x = true) ∧
      ∃ x ∈ imageHeight, zero.lt x = true) :
    ∃ box, r.rect imageWidth imageHeight = .ok box := by
  have hstored : ∃ stored, r.storedRect imageWidth imageHeight = .ok stored := by
    rw [storedRect]
    split
    next => exact ⟨_, rfl⟩
    next => exact ⟨_, rfl⟩
    next hpixels =>
      obtain ⟨⟨width, rfl, hwidth⟩, ⟨height, rfl, hheight⟩⟩ := h hpixels
      rw [imageSide?_eq_some hwidth, imageSide?_eq_some hheight]
      exact exists_ofPixelCorners hwidth hheight _ _ _ _
  obtain ⟨stored, hstored⟩ := hstored
  exact ⟨_, by rw [rect, hstored]; rfl⟩

/-- What the detection of a record has of it. -/
theorem detection_eq_ok_iff {r : Record} {taxonomyName : Text}
    {imageWidth imageHeight : Option Binary64} {x : Detection} :
    r.detection taxonomyName imageWidth imageHeight = .ok x ↔
      x.label = r.label ∧ x.confidence = r.confidence ∧ x.kind = r.elementKind taxonomyName ∧
        r.rect imageWidth imageHeight = .ok x.box := by
  obtain ⟨kind, box, confidence, label⟩ := x
  rw [detection]
  cases r.rect imageWidth imageHeight with
  | error fault => simp [Except.map]
  | ok stored =>
    simp only [Except.map, Except.ok.injEq, Detection.mk.injEq]
    tauto

end Record

/-! ## Documents -/

namespace Document

/-- The records of a valid document that are kept have detections. -/
theorem IsValid.exists_detections {d : Document} (h : d.IsValid) (minConfidence : Binary64) :
    ∃ detections, d.detections minConfidence = .ok detections ∧
      List.Forall₂ (fun r x => r.detection d.taxonomy d.imageWidth d.imageHeight = .ok x)
        (d.kept minConfidence) detections := by
  refine exists_mapM_eq_ok ?_
  intro r hr
  have hrecord : r ∈ d.records := (List.mem_filter.1 hr).1
  have hrect : ∃ box, r.rect d.imageWidth d.imageHeight = .ok box := by
    refine Record.exists_rect ?_
    intro hpixels
    obtain ⟨hwidth, hheight⟩ := h.size r hrecord hpixels
    obtain ⟨width, hwidth⟩ := Option.isSome_iff_exists.1 hwidth
    obtain ⟨height, hheight⟩ := Option.isSome_iff_exists.1 hheight
    exact ⟨⟨width, hwidth, h.width width hwidth⟩, ⟨height, hheight, h.height height hheight⟩⟩
  obtain ⟨box, hbox⟩ := hrect
  exact ⟨_, by rw [Record.detection, hbox]; rfl⟩

/-- An accepted document has detections, one for each record that is not below the least confidence,
in the order of the records: with its label and its confidence, the kind it has under the taxonomy
of the document, and its rectangle on the image of the document. -/
theorem detections_of_parse {v : Json} {source : Option Text} {d : Document}
    (h : parse v source = .ok d) (minConfidence : Binary64) :
    ∃ detections, d.detections minConfidence = .ok detections ∧
      List.Forall₂ (fun r x => x.label = r.label ∧ x.confidence = r.confidence ∧
          x.kind = r.elementKind d.taxonomy ∧ r.rect d.imageWidth d.imageHeight = .ok x.box)
        (d.records.filter fun r => !r.confidence.lt minConfidence) detections := by
  obtain ⟨detections, hdetections, hrecords⟩ := (isValid_of_parse h).exists_detections minConfidence
  exact ⟨detections, hdetections, hrecords.imp fun _ _ => Record.detection_eq_ok_iff.1⟩

/-- A document of a sure box in pixels and another box that is a mere guess. -/
def pixelDocument : Json :=
  .object [("image_width", .int 4), ("image_height", .int 2), ("detections", .array [
    .object [("kind", .string "button"), ("bbox", .array [.int 0, .int 0, .int 1, .int 1]),
      ("bbox_format", .string "pixel_xyxy")],
    .object [("confidence", .int 0), ("bbox", .array [.int 0, .int 0, .int 1, .int 1])]])]

def pixelRecord : Record :=
  ⟨some "button", none, none, .one, ⟨.zero, .zero, .one, .one⟩, .pixelCorners, .topLeft⟩

def guessedRecord : Record :=
  ⟨none, none, none, .zero, ⟨.zero, .zero, .one, .one⟩, .normalizedSize, .topLeft⟩

def readPixelDocument : Document :=
  ⟨none, Binary64.ofInt? 4, Binary64.ofInt? 2, "ui", [pixelRecord, guessedRecord]⟩

theorem parse_pixelDocument : parse pixelDocument none = .ok readPixelDocument := by
  have hread : (parse pixelDocument none).toOption = some readPixelDocument := by decide +kernel
  cases hparse : parse pixelDocument none with
  | error fault =>
    rw [hparse] at hread
    cases hread
  | ok d =>
    rw [hparse] at hread
    exact congrArg Except.ok (Option.some.inj hread)

theorem detections_of_pixelDocument :
    parse pixelDocument none = .ok readPixelDocument ∧
      ∃ x, readPixelDocument.detections .one = .ok [x] ∧ x.kind = .button := by
  obtain ⟨detections, hdetections, hrecords⟩ := detections_of_parse parse_pixelDocument .one
  have hkept : (readPixelDocument.records.filter fun r => !r.confidence.lt .one) =
      [pixelRecord] := by
    decide +kernel
  have hkind : pixelRecord.elementKind readPixelDocument.taxonomy = .button := by decide +kernel
  rw [hkept] at hrecords
  cases hrecords with
  | cons hx hrest =>
    cases hrest
    exact ⟨parse_pixelDocument, _, hdetections, hx.2.2.1.trans hkind⟩

/-- In an accepted document confidences lie between zero and one and the sides of the image are
positive. Its detections are no less confident than was asked for, if that is a number. -/
theorem confidence_of_parse {v : Json} {source : Option Text} {d : Document}
    (h : parse v source = .ok d) {minConfidence : Binary64} (hnumber : minConfidence ≠ .nan) :
    (∀ r ∈ d.records, Binary64.zero.le r.confidence = true ∧ r.confidence.le .one = true) ∧
    (∀ x ∈ d.imageWidth, Binary64.zero.lt x = true) ∧
    (∀ x ∈ d.imageHeight, Binary64.zero.lt x = true) ∧
    ∃ detections, d.detections minConfidence = .ok detections ∧
      ∀ x ∈ detections, minConfidence.le x.confidence = true := by
  have hvalid := isValid_of_parse h
  obtain ⟨detections, hdetections, hrecords⟩ := hvalid.exists_detections minConfidence
  refine ⟨hvalid.records, hvalid.width, hvalid.height, detections, hdetections, ?_⟩
  intro x hx
  obtain ⟨r, hr, hdetection⟩ := exists_of_forall₂ hrecords x hx
  obtain ⟨hrecord, hkept⟩ := List.mem_filter.1 hr
  obtain ⟨-, hconfidence, -, -⟩ := Record.detection_eq_ok_iff.1 hdetection
  have hnan : r.confidence ≠ .nan := (Binary64.le_iff.1 (hvalid.records r hrecord).1).2.1
  rw [hconfidence]
  exact Binary64.le_of_lt_eq_false hnan hnumber (by simpa using hkept)

theorem confidence_of_pixelDocument :
    parse pixelDocument none = .ok readPixelDocument ∧ Binary64.one ≠ .nan ∧
      ∃ detections, readPixelDocument.detections .one = .ok detections ∧
        ∀ x ∈ detections, Binary64.one.le x.confidence = true := by
  have hnumber : Binary64.one ≠ .nan := by decide
  exact ⟨parse_pixelDocument, hnumber, (confidence_of_parse parse_pixelDocument hnumber).2.2.2⟩

end Document

end Wireframe
