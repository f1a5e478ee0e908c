import WiringQuote.LineItem.Build
import WiringQuote.Protection.Device

/-!
# Enclosure sizing

The enclosure has to hold one slot per breaker, one for the surge protection and three for each
residual current device. The smallest tier that holds them is chosen, the largest if none does. An
enclosure row is switched to a product of that tier; no enclosure is ever added.
-/

namespace WiringQuote.Enclosure

open Decimal

/-- The capacities in which enclosures come. -/
def tiers : List Int := [12, 24, 36, 48, 60]

def largestTier : Int := 60

def slotsPerResidualCurrent : Int := 3

/-- The units of breakers among the protection rows. -/
def breakerCount (protection : List LineItem) : Except Fault Number :=
  Number.sum ((protection.filter fun item =>
    ProductGroups.isIn ProductGroups.breakers item.group).map (·.quantity))

/-- The slots that a number of breakers takes up. -/
def slotsFor (breakers : Number) : Except Fault Number :=
  if breakers.atMost 0 then .ok (.int 0)
  else do
    let residual ← breakers.ceilDiv Protection.breakersPerResidualCurrent
    let withSurge ← breakers.add (.int 1)
    withSurge.add (.int (residual * slotsPerResidualCurrent))

/-- The smallest tier that holds the slots, else the largest. -/
def tierFor (slots : Number) : Int := (tiers.find? slots.atMost).getD largestTier

/-- The available enclosures of a tier. -/
def ofTier (catalog : Catalog) (location : Option String) (tier : Int) : List Product :=
  (catalog.availableInGroup (some ProductGroups.enclosure) location).filter fun product =>
    product.moduleSlots = some tier

/-- The enclosure of a tier in the best quality, starting from the current one; any if no tier of
quality fits. -/
def productFor (catalog : Catalog) (preference : Preference) (tier : Int)
    (currentQuality : Option String) : Option Product :=
  let candidates := ofTier catalog preference.location tier
  (Catalog.bestOf candidates (Quality.chain [currentQuality, preference.globalQuality])).orElse
    fun _ => candidates.head?

/-- The first enclosure row. -/
def row? (items : List LineItem) : Option LineItem :=
  items.find? fun item => item.group = some ProductGroups.enclosure

/-- The resized copy of the first enclosure row, if it has to change. -/
def resized (catalog : Catalog) (preference : Preference) (items protection : List LineItem) :
    Except Fault (Option LineItem × List Diagnostic) := do
  let breakers ← breakerCount protection
  match row? items with
  | none => return (none, [])
  | some current =>
    if breakers.isZero then return (none, [])
    else
      let slots ← slotsFor breakers
      let tier := tierFor slots
      match productFor catalog preference tier current.quality with
      | none => return (none, [.noEnclosureProduct slots tier current.id])
      | some product =>
        if product.id = current.productId then return (none, [])
        else return (some (← current.withProduct product), [])

/-- The rows with the enclosure row replaced by its resized copy. -/
def resize (catalog : Catalog) (preference : Preference) (items protection : List LineItem) :
    Except Fault (List LineItem × List Diagnostic) := do
  let (copy, diagnostics) ← resized catalog preference items protection
  return match copy with
    | none => (items, diagnostics)
    | some row => (items.map fun item => if item.id = row.id then row else item, diagnostics)

end WiringQuote.Enclosure
