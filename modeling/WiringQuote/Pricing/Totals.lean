import WiringQuote.LineItem.Basic
import WiringQuote.Pricing.PriceList

/-!
# Totals

The purchase price of a row is the one that a user has set, else that of the price list, else that of
the catalog. The sales price adds the markup; labour is hours times wages. Totals add the figures of
rows from left to right, and a sum over the roles starts from zero.
-/

namespace WiringQuote

open Decimal

/-- What rows are priced with. -/
structure Pricing where
  priceList : PriceList
  location : Option String
  markup : Float
  wages : PerRole Float

/-- The figures of some rows. -/
structure Totals where
  itemCount : Nat
  materialPurchase : Float
  materialSales : Float
  hours : PerRole Float
  totalHours : Float
  laborCost : Float
  total : Float
deriving DecidableEq

/-- The figures of one row. -/
structure ItemTotals where
  itemId : String
  quantity : Number
  price : Price
  markup : Float
  salesPerUnit : Float
  figures : Totals

namespace Totals

def zero : Totals := ⟨0, 0.0, 0.0, .const 0.0, 0.0, 0.0, 0.0⟩

def add (sum part : Totals) : Totals :=
  { itemCount := sum.itemCount + part.itemCount
    materialPurchase := sum.materialPurchase + part.materialPurchase
    materialSales := sum.materialSales + part.materialSales
    hours := sum.hours.zipWith (· + ·) part.hours
    totalHours := sum.totalHours + part.totalHours
    laborCost := sum.laborCost + part.laborCost
    total := sum.total + part.total }

end Totals

namespace Pricing

/-! ## One row -/

def purchasePrice (pricing : Pricing) (item : LineItem) : Except Fault Price :=
  match item.localPrice with
  | some price => do return ⟨← price.toFloat, .override, false, false⟩
  | none =>
    match pricing.priceList.price? item.productId pricing.location with
    | some price => .ok price
    | none => .ok ⟨plainZero item.unitPrice, .catalog, false, false⟩

/-- The markup in percent. -/
def markupFor (pricing : Pricing) (item : LineItem) : Except Fault Float :=
  match item.localMarkup with
  | some markup => markup.toFloat
  | none => .ok pricing.markup

/-- A purchase price with a markup in percent. -/
def withMarkup (price markup : Float) : Float := price * (1.0 + markup / 100.0)

def laborCost (pricing : Pricing) (item : LineItem) : Float :=
  (item.hoursTotal.zipWith (· * ·) pricing.wages).sum

/-- The figures of a row. -/
def itemTotals (pricing : Pricing) (item : LineItem) : Except Fault ItemTotals := do
  let price ← pricing.purchasePrice item
  let markup ← pricing.markupFor item
  let sales := withMarkup price.price markup
  let labor := pricing.laborCost item
  let units ← item.quantity.toFloat
  let materialSales := sales * units
  return {
    itemId := item.id
    quantity := item.quantity
    price
    markup
    salesPerUnit := sales
    figures := {
      itemCount := 1
      materialPurchase := price.price * units
      materialSales
      hours := item.hoursTotal
      totalHours := item.hoursTotal.sum
      laborCost := labor
      total := materialSales + labor } }

/-! ## Several rows -/

/-- The figures of rows, added from left to right. -/
def sumItems (pricing : Pricing) (items : List LineItem) : Except Fault Totals :=
  items.foldlM (fun sum item => do return sum.add (← pricing.itemTotals item).figures) .zero

/-- Rows without a category count under this name. -/
def defaultCategory : String := "Sonstiges"

/-- The category that a row counts under. -/
def categoryOf (item : LineItem) : String :=
  match item.category with
  | none => defaultCategory
  | some name => if name.isEmpty then defaultCategory else name

/-- The figures of each category of an instance, in order of first appearance. -/
def categoryTotals (pricing : Pricing) (items : List LineItem) (instanceId : String) :
    Except Fault (OrderedMap String Totals) :=
  (items.filter fun item => item.instanceId = instanceId).foldlM (fun categories item => do
    let category := categoryOf item
    let part ← pricing.itemTotals item
    return categories.insert category (((categories.get? category).getD .zero).add part.figures))
    .empty

def instanceTotals (pricing : Pricing) (items : List LineItem) (instanceId : String) :
    Except Fault Totals :=
  pricing.sumItems (items.filter fun item => item.instanceId = instanceId)

def packageTotals (pricing : Pricing) (items : List LineItem) (packageId : Value) :
    Except Fault Totals :=
  pricing.sumItems (items.filter fun item => item.packageId.key = packageId.key)

end Pricing

end WiringQuote
