import WiringQuote.Export.LineItem
import WiringQuote.Export.Pricing
import WiringQuote.Session.Figures

/-!
# Sessions as values

How a session, its rows and its figures are written in answers.
-/

namespace WiringQuote

open Decimal Value

def Instance.toValue (selected : Instance) : Value :=
  .obj [("instance_id", .str selected.id), ("package_id", selected.packageId),
    ("params", selected.params.toValue)]

def ScopeTotals.toValue : ScopeTotals → Value
  | .row totals => totals.toValue
  | .categories totals => OrderedMap.toValue Totals.toValue totals
  | .sum totals => totals.toValue
  | .grand totals => totals.toValue

namespace Session

/-- The displayed rows. -/
def rowFields (session : Session) : List (String × Value) :=
  [ ("line_items", .list (session.display.items.map (·.toValue))),
    ("protection_items", .list (session.display.protection.map (·.toValue)))]

/-- All that a session shows. -/
def snapshot (session : Session) (id : String) : Except Fault (List (String × Value)) := do
  let totals ← session.grandTotals
  return [
    ("session_id", .str id),
    ("location_id", ofOption .str session.store.location),
    ("global_params", session.store.globals.toValue),
    ("instances", .list (session.store.instanceList.map (·.toValue)))] ++
    session.rowFields ++ [
    ("totals", totals.toValue),
    ("diagnostics", .list (session.display.diagnostics.map (·.toValue)))]

end Session

end WiringQuote
