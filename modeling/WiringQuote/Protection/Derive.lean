import WiringQuote.LineItem.Build
import WiringQuote.Protection.Device

/-!
# Protection rows

The rows of the protection devices, which belong to a package of their own. Groups that come down to
one product share a row; a group without a product is reported with the quantity that is missing.
-/

namespace WiringQuote.Protection

open Decimal

/-- The package that owns all protection devices. -/
def packageId : Value := .int (-1)

def packageName : String := "Schutzorgane"

def instanceId : String := "schutzorgane"

def placement : Placement := ⟨instanceId, packageId, packageName⟩

/-- Adds the row of one required group. -/
def addDevice (catalog : Catalog) (preference : Preference) (sheet : LineItem.Sheet)
    (device : String × Number) : Except Fault LineItem.Sheet :=
  let (group, quantity) := device
  let tiers := Quality.chain [preference.globalQuality]
  match catalog.selectByQuality group tiers preference.location with
  | none => .ok (sheet.report (.noProtectionProduct group quantity))
  | some product => do sheet.add (← LineItem.make placement product quantity (.float 1.0) none true)

/-- The protection rows for the consumers among the items. -/
def derive (catalog : Catalog) (preference : Preference) (items : List LineItem) :
    Except Fault LineItem.Sheet := do
  let devices ← required (← Consumers.ofItems items)
  devices.foldlM (addDevice catalog preference) .empty

end WiringQuote.Protection
