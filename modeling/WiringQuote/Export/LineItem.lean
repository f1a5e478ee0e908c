import WiringQuote.Export.Catalog
import WiringQuote.LineItem.Basic

/-!
# Line items as values

How the rows of a quote are written in answers.
-/

namespace WiringQuote

open Value

def LineItem.toValue (item : LineItem) : Value :=
  .obj [
    ("id", .str item.id),
    ("instance_id", .str item.instanceId),
    ("package_id", item.packageId),
    ("package_name", .str item.packageName),
    ("product_id", .str item.productId),
    ("name", .str item.name),
    ("unit", .str item.unit),
    ("quantity", .num item.quantity),
    ("unit_price", .float item.unitPrice),
    ("category", ofOption .str item.category),
    ("produkt_gruppe", ofOption .str item.group),
    ("qualitaetsstufe", ofOption .str item.quality),
    ("hours_per_unit", item.hoursPerUnit.toValue .float),
    ("hours_total", item.hoursTotal.toValue .float),
    ("calculated_quantity", .float item.calculated),
    ("is_protection_device", .bool item.isProtection),
    ("local_price", ofOption .num item.localPrice),
    ("local_markup", ofOption .num item.localMarkup),
    ("manual_hours", item.manualHours.toPartialValue .float)]

end WiringQuote
