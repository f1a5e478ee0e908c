import WiringQuote.Catalog.Row

/-!
# Line items

A line item is a number of units of one product for one selected package, with the hours that the work
takes. Its hours are the product's hours per unit times a multiplier; merging two items of one product
adds quantities and hours, and the hours per unit become the average. Quantities that rules ask for are
rounded to whole units; a row that is made in another way may hold any number of them.

`localPrice`, `localMarkup` and `manualHours` are what a user has set for the item.
-/

namespace WiringQuote

open Decimal

/-- One row of a quote. -/
structure LineItem where
  id : String
  instanceId : String
  /-- The package id as it was given. -/
  packageId : Value
  packageName : String
  productId : String
  name : String
  unit : String
  quantity : Number
  unitPrice : Float
  category : Option String
  group : Option String
  quality : Option String
  hoursMultiplier : Number
  hoursPerUnit : PerRole Float
  hoursTotal : PerRole Float
  /-- The quantity before it was rounded to whole units. -/
  calculated : Float
  ruleIds : List Int
  isProtection : Bool
  localPrice : Option Number
  localMarkup : Option Number
  manualHours : PerRole (Option Float)

/-- Where a line item belongs. -/
structure Placement where
  instanceId : String
  packageId : Value
  packageName : String

/-- The id of the row of a product within a selected package. -/
def lineItemId (instanceId productId : String) : String := instanceId ++ "-" ++ productId

/-- Whole units, a half rounded up, and at least one unit for any positive quantity. -/
def roundQuantity (quantity : Number) : Except Fault Int :=
  if quantity.atMost 0 then .ok 0
  else do
    let x ← quantity.toFloat
    (floor (x + 0.5)).map fun n => max 1 n

namespace LineItem

/-- The hours per unit of a product under a multiplier. -/
def unitHours (product : Product) (multiplier : Number) : Except Fault (PerRole Float) := do
  let factor ← multiplier.toFloat
  return .ofFn fun role => product.hoursFor role * factor

/-- The hours for a number of units. -/
def hoursFor (perUnit : PerRole Float) (quantity : Number) : Except Fault (PerRole Float) := do
  let units ← quantity.toFloat
  return perUnit.map (· * units)

/-- A new row. The calculated quantity is the quantity itself unless it is given. -/
def make (place : Placement) (product : Product) (quantity multiplier : Number)
    (calculated : Option Float) (isProtection : Bool) : Except Fault LineItem := do
  let perUnit ← unitHours product multiplier
  return {
    id := lineItemId place.instanceId product.id
    instanceId := place.instanceId
    packageId := place.packageId
    packageName := place.packageName
    productId := product.id
    name := product.name
    unit := product.unit
    quantity
    unitPrice := product.unitPrice
    category := product.category
    group := product.group
    quality := product.quality
    hoursMultiplier := multiplier
    hoursPerUnit := perUnit
    hoursTotal := ← hoursFor perUnit quantity
    calculated := ← match calculated with
      | some x => .ok x
      | none => quantity.toFloat
    ruleIds := []
    isProtection
    localPrice := none
    localMarkup := none
    manualHours := .const none }

/-- The row switched to another product; id, quantity and multiplier are kept. -/
def withProduct (item : LineItem) (product : Product) : Except Fault LineItem := do
  let perUnit ← unitHours product item.hoursMultiplier
  return { item with
    productId := product.id
    name := product.name
    unit := product.unit
    unitPrice := product.unitPrice
    category := product.category
    group := product.group
    quality := product.quality
    hoursPerUnit := perUnit
    hoursTotal := ← hoursFor perUnit item.quantity }

/-- The row with another quantity; hours follow the hours per unit. -/
def withQuantity (item : LineItem) (quantity : Number) : Except Fault LineItem := do
  return { item with quantity, hoursTotal := ← hoursFor item.hoursPerUnit quantity }

/-- The average hours per unit; none for no units. -/
def average (hours : PerRole Float) (quantity : Number) : Except Fault (PerRole Float) :=
  if quantity.isZero then .ok (.const 0.0)
  else do
    let units ← quantity.toFloat
    return hours.map (· / units)

/-- The first row with the second absorbed. -/
def merge (target other : LineItem) : Except Fault LineItem := do
  let quantity ← target.quantity.add other.quantity
  let hoursTotal := target.hoursTotal.zipWith (· + ·) other.hoursTotal
  return { target with
    quantity
    calculated := target.calculated + other.calculated
    ruleIds := target.ruleIds ++ other.ruleIds
    hoursPerUnit := ← average hoursTotal quantity
    hoursTotal }

/-- The hours of all roles together. -/
def totalHours (item : LineItem) : Float := item.hoursTotal.sum

end LineItem

end WiringQuote
