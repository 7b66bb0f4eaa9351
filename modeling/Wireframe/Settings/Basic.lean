import Wireframe.Layout.ReadingOrder
import Wireframe.Number.Decimal
import Wireframe.Page.Name
import Wireframe.Widget.Size

/-!
# Settings

What can be configured, and the check that refuses settings the generator has no use for.
-/
namespace Wireframe

structure Settings where
  referenceWidth : Int
  referenceHeight : Int
  rowThreshold : Binary64
  rowStrategy : Text
  columnGap : Int
  defaultPageName : Text
  previewLimit : Int
  minConfidence : Binary64
  logLevel : Text
  logToFile : Bool
  logsDir : Text
  deriving DecidableEq

namespace Settings

def standard : Settings where
  referenceWidth := 375
  referenceHeight := 812
  rowThreshold := .ofDecimal false 8 (-2)
  rowStrategy := RowStrategy.drifting.name
  columnGap := 16
  defaultPageName := PageName.standard
  previewLimit := 5
  minConfidence := .ofDecimal false 3 (-1)
  logLevel := "INFO"
  logToFile := false
  logsDir := "logs"

/-- The reference canvas. -/
def canvas (s : Settings) : Canvas :=
  ⟨Binary64.ofInt? s.referenceWidth, Binary64.ofInt? s.referenceHeight⟩

/-- The names that the check accepts as a strategy, whatever their case. -/
def strategyNames : List Text := [RowStrategy.drifting.name, RowStrategy.anchored.name]

/-- Refuses settings with a value out of its range; the first such value counts. -/
def check (s : Settings) : Except Fault Unit :=
  if s.referenceWidth ≤ 0 || s.referenceHeight ≤ 0 then .error .emptyCanvas
  else if s.rowThreshold.lt .zero || Binary64.one.lt s.rowThreshold then
    .error .thresholdOutOfRange
  else if !strategyNames.contains s.rowStrategy.lower then
    .error (.unknownConfiguredStrategy s.rowStrategy)
  else if s.minConfidence.lt .zero || Binary64.one.lt s.minConfidence then
    .error .confidenceOutOfRange
  else if s.previewLimit < 0 || s.columnGap < 0 then .error .negativeLimit
  else .ok ()

end Settings

end Wireframe
