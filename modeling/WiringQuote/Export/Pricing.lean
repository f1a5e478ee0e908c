import WiringQuote.Export.Catalog
import WiringQuote.Pricing.Quote

/-!
# Totals and quotes as values

How figures are written in answers.
-/

namespace WiringQuote

open Value

/-- The figures that rows and sums of rows share. -/
def Totals.fields (totals : Totals) : List (String × Value) :=
  [ ("item_count", .int totals.itemCount),
    ("material_purchase", .float totals.materialPurchase),
    ("material_sales", .float totals.materialSales),
    ("hours", totals.hours.toValue .float),
    ("total_hours", .float totals.totalHours),
    ("labor_cost", .float totals.laborCost),
    ("total", .float totals.total)]

def Totals.toValue (totals : Totals) : Value := .obj totals.fields

def ItemTotals.toValue (totals : ItemTotals) : Value :=
  .obj ([
    ("item_id", .str totals.itemId),
    ("quantity", .num totals.quantity),
    ("purchase_price", .float totals.price.price),
    ("price_source", .str totals.price.source.name),
    ("missing_price", .bool totals.price.missingPrice),
    ("missing_column", .bool totals.price.missingFactor),
    ("markup_pct", .float totals.markup),
    ("sales_price_per_unit", .float totals.salesPerUnit)] ++ totals.figures.fields)

/-- The packages are written as `packages` wants them. -/
def GrandTotals.toValueWith (packages : List (String × Value) → Value) (grand : GrandTotals) :
    Value :=
  .obj (grand.sum.fields ++ [
    ("packages", packages (grand.packages.map fun (id, totals) =>
      (id.text, totals.toValue))),
    ("protection", grand.protection.toValue)])

/-- The grand total with the packages under their ids. -/
def GrandTotals.toValue (grand : GrandTotals) : Value := grand.toValueWith .obj

def QuoteSummary.toValue (summary : QuoteSummary) : Value :=
  .obj [
    ("materialCosts", .float summary.material),
    ("laborCosts", .float summary.labor),
    ("travelCosts", .float summary.travel),
    ("subtotal", .float summary.subtotal),
    ("subsidy", .num summary.subsidy),
    ("total", .float summary.total),
    ("hours", summary.hours.toValue .float)]

end WiringQuote
