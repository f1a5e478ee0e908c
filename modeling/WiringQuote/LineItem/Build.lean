import WiringQuote.Catalog.Selection
import WiringQuote.LineItem.Basic
import WiringQuote.ProductGroups
import WiringQuote.Quantity.Resolution

/-!
# From quantities to line items

Each resolved rule with a positive quantity becomes a row of the product that is selected for it, or
a diagnostic if there is none. Rows of one selected package with one product are merged. Protection
devices are no rows of rules; they are derived afterwards.
-/

namespace WiringQuote

open Decimal

/-- The quality tier and the location that products are selected for. -/
structure Preference where
  globalQuality : Option String
  location : Option String

namespace LineItem

/-- Rows by id, and what did not fit. -/
structure Sheet where
  rows : OrderedMap String LineItem
  diagnostics : List Diagnostic

namespace Sheet

def empty : Sheet := ⟨.empty, []⟩

/-- Adds a row; a row with its id absorbs it. -/
def add (sheet : Sheet) (item : LineItem) : Except Fault Sheet := do
  let row ← match sheet.rows.get? item.id with
    | none => .ok item
    | some existing => existing.merge item
  return { sheet with rows := sheet.rows.insert item.id row }

def report (sheet : Sheet) (diagnostic : Diagnostic) : Sheet :=
  { sheet with diagnostics := sheet.diagnostics ++ [diagnostic] }

end Sheet

/-- The rule makes a row or a diagnostic. -/
def counts (resolved : ResolvedRule) : Bool :=
  !ProductGroups.protection.contains resolved.rule.group && !(resolved.quantity ≤ 0)

/-- The row of a resolved rule with the product selected for it. -/
def ofRule (package : Option Package) (resolved : ResolvedRule) (product : Product) :
    Except Fault LineItem := do
  let quantity ← roundQuantity (.float resolved.quantity)
  let multiplier ← Formula.multiplier resolved.rule.hours resolved.env
  let place : Placement :=
    ⟨resolved.instanceId, resolved.packageId, (package.map (·.name)).getD ""⟩
  let item ← make place product (.int quantity) (.float multiplier) (some resolved.quantity) false
  return { item with ruleIds := [resolved.rule.id] }

/-- Adds what one resolved rule makes. -/
def addRule (catalog : Catalog) (preference : Preference) (sheet : Sheet)
    (resolved : ResolvedRule) : Except Fault Sheet :=
  if counts resolved then
    let package := catalog.package? resolved.packageId
    let demand : Catalog.Demand :=
      ⟨.float resolved.quantity, package.bind (·.qualityLevel), preference.globalQuality,
        preference.location⟩
    match catalog.select resolved.rule demand with
    | none =>
      .ok (sheet.report (.noProduct resolved.rule.id resolved.rule.group resolved.instanceId))
    | some product => do sheet.add (← ofRule package resolved product)
  else .ok sheet

/-- The rows of all resolved rules. -/
def build (catalog : Catalog) (preference : Preference) (resolution : Resolution) :
    Except Fault Sheet :=
  resolution.rules.foldlM (addRule catalog preference) .empty

end LineItem

end WiringQuote
