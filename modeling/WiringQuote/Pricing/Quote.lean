import WiringQuote.Decimal.Places
import WiringQuote.Pricing.Totals
import WiringQuote.Protection.Derive

/-!
# The grand total and the quote

The grand total adds the totals of the packages, in order of their first row, and then those of the
protection devices. The quote shows its figures to cents, with travel as a share of material and
labour, and takes off a subsidy.
-/

namespace WiringQuote

open Decimal

/-- The grand total with the totals that it adds up. -/
structure GrandTotals where
  sum : Totals
  packages : List (Value × Totals)
  protection : Totals

/-- The figures of a quote. The subsidy is shown as it was given. -/
structure QuoteSummary where
  material : Float
  labor : Float
  travel : Float
  subtotal : Float
  subsidy : Number
  total : Float
  hours : PerRole Float

namespace Pricing

/-- The first of the values that are one key, in order. -/
def distinctKeys : List Value → List Value
  | [] => []
  | id :: rest => id :: (distinctKeys rest).filter fun other => other.key ≠ id.key

/-- The packages with a row, in order of first appearance, protection devices aside. -/
def packageIds (items : List LineItem) : List Value :=
  distinctKeys ((items.map (·.packageId)).filter fun id => id.key ≠ Protection.packageId.key)

def protectionTotals (pricing : Pricing) (items : List LineItem) : Except Fault Totals :=
  pricing.packageTotals items Protection.packageId

def grandTotals (pricing : Pricing) (items : List LineItem) : Except Fault GrandTotals := do
  let packages ← (packageIds items).mapM fun id => do
    return (id, ← pricing.packageTotals items id)
  let protection ← pricing.protectionTotals items
  let ofPackages := packages.foldl (fun sum entry => Totals.add sum entry.2) Totals.zero
  let sum := ofPackages.add protection
  return ⟨sum, packages, protection⟩

/-- Travel costs in percent of material and labour unless another share is asked for. -/
def defaultTravel : Float := 5.0

/-- A number to cents; whole numbers are kept. -/
def numberCents : Number → Number
  | .int n => .int n
  | .float x => .float (roundCents x)

/-- The quote for the rows. -/
def quote (pricing : Pricing) (items : List LineItem) (travelPercent : Number)
    (subsidy : Number) : Except Fault QuoteSummary := do
  let grand ← pricing.grandTotals items
  let material := grand.sum.materialSales
  let labor := grand.sum.laborCost
  let travel := (material + labor) * (← travelPercent.toFloat) / 100.0
  let subtotal := material + labor + travel
  let total := subtotal - (← subsidy.toFloat)
  return {
    material := roundCents material
    labor := roundCents labor
    travel := roundCents travel
    subtotal := roundCents subtotal
    subsidy := numberCents subsidy
    total := roundCents total
    hours := grand.sum.hours.map roundCents }

end Pricing

end WiringQuote
