import Wireframe.Log.Basic
import Wireframe.Page.Scaffold
import Wireframe.Settings.InForce
import Wireframe.Text.Lines
import Wireframe.Widget.Render

/-!
# Generating pages

From detections to the source of a page, and to a preview of the first widgets. A generator is
fixed by its options and, where an option is not given, by the settings at the time it is built.
It hands all that it has to the steps of its work, so that the settings in force while it works do
not matter (`generateUnder_eq`).
-/
namespace Wireframe

/-- What may be chosen for a generator in place of the settings. -/
structure GeneratorOptions where
  referenceWidth : Option Binary64 := none
  referenceHeight : Option Binary64 := none
  rowThreshold : Option Binary64 := none
  rowStrategy : Option Text := none
  columnGap : Option Int := none
  previewLimit : Option Int := none
  defaultPageName : Option Text := none
  deriving DecidableEq

structure Generator where
  canvas : Canvas
  rowThreshold : Binary64
  rowStrategy : RowStrategy
  columnGap : Int
  previewLimit : Int
  defaultPageName : Text
  deriving DecidableEq

/-- A page and the counts that are reported with it. -/
structure Page where
  name : Text
  source : Text
  detectionCount : Nat
  rowCount : Nat
  deriving DecidableEq

namespace Page

def lineCount (p : Page) : Nat := p.source.lineCount

/-- What is logged when a page was made. -/
def logEntry (p : Page) : Log.Entry :=
  Log.entry .debug <| Log.generationMessage p.name (.ofNat p.detectionCount) (.ofNat p.rowCount)
    (.ofNat p.lineCount)

end Page

namespace Generator

/-- The generator of the options, completed from the settings. -/
def build (settings : Settings) (options : GeneratorOptions) : Except Fault Generator := do
  let strategy ← settings.strategyFor (options.rowStrategy.map .named)
  return {
    canvas := settings.canvasFor options.referenceWidth options.referenceHeight
    rowThreshold := options.rowThreshold.getD settings.rowThreshold
    rowStrategy := strategy
    columnGap := options.columnGap.getD settings.columnGap
    previewLimit := options.previewLimit.getD settings.previewLimit
    defaultPageName :=
      PageName.ofText (options.defaultPageName.getD settings.defaultPageName) PageName.standard }

/-- The rows of detections. -/
def rows (g : Generator) (detections : List Detection) : List (List Detection) :=
  groupRows id g.rowThreshold g.rowStrategy detections

/-- The class name of a page; an empty or absent name stands for the default one. -/
def pageName (g : Generator) (given : Option Text) : Text :=
  let wanted := match given with
    | some (c :: rest) => c :: rest
    | _ => g.defaultPageName
  PageName.ofText wanted g.defaultPageName

/-- The widgets of a page. All its parts are rendered before the spacers between them are written,
which cannot be done with a gap of too many digits. -/
def body (g : Generator) (layout : Layout Detection) : Except Fault Text := do
  let source ← g.canvas.render layout
  if Numeral.isWritable g.columnGap then return source else throw .tooManyDigits

/-- The page of detections under the given name. -/
def generate (g : Generator) (detections : List Detection) (given : Option Text) :
    Except Fault Page := do
  let rows := g.rows detections
  let body ← g.body (Layout.ofRows rows g.columnGap)
  let name := g.pageName given
  return ⟨name, Page.enclose name body g.defaultPageName, detections.length, rows.length⟩

/-- The page of detections, made while the settings `now` are in force. -/
def generateUnder (now : Settings) (g : Generator) (detections : List Detection)
    (given : Option Text) : Except Fault Page := do
  let rows ← now.rowsFor id (some g.rowThreshold) (some (.exactly g.rowStrategy)) detections
  let body ← g.body (now.layoutFor rows (some g.columnGap))
  let name := g.pageName given
  return ⟨name, Page.enclose name body g.defaultPageName, detections.length, rows.length⟩

/-- The widgets of the first detections in their given order, a blank line between two. -/
def preview (g : Generator) (detections : List Detection) (limit : Option Int) :
    Except Fault Text := do
  let fragments ← (detections.take (limit.getD g.previewLimit).toNat).mapM g.canvas.fragment
  return .join "\n\n" ((fragments.filter (!·.isEmpty)).map (·.code))

theorem generateUnder_eq (now : Settings) (g : Generator) (detections : List Detection)
    (given : Option Text) : g.generateUnder now detections given = g.generate detections given :=
  rfl

end Generator

end Wireframe
