import WiringQuote.Catalog.Row

/-!
# The price list

Base prices of products with a factor for each location. Of several rows for one product the last one
counts. Two columns of the list have fixed names: the product column names no location, and the base
price column read as a location multiplies the base price with itself.
-/

namespace WiringQuote

/-- The rows of the list as they were given. -/
structure PriceList where
  rows : List ProductPrice

/-- Where a price comes from. -/
inductive PriceSource where
  | override
  | entity
  | catalog
deriving DecidableEq, Repr

def PriceSource.name : PriceSource → String
  | .override => "override"
  | .entity => "entity"
  | .catalog => "catalog"

/-- A purchase price and what was missing for it. -/
structure Price where
  price : Float
  source : PriceSource
  missingPrice : Bool
  missingFactor : Bool

namespace PriceList

def empty : PriceList := ⟨[]⟩

def productColumn : String := "product_id"

def baseColumn : String := "base_price"

/-- The last row of a product. -/
def row? (list : PriceList) (productId : String) : Option ProductPrice :=
  (list.rows.filter fun row => row.productId = productId).getLast?

/-- The number of products with a row. -/
def size (list : PriceList) : Nat := (list.rows.map (·.productId)).eraseDups.length

/-- The base price, if the row has one. -/
def base? (row : ProductPrice) : Option Float := row.basePrice.filter (!·.isNaN)

/-- The factor of a row with this base price at a location. -/
def factor? (row : ProductPrice) (base : Float) (location : String) : Option Float :=
  if location.isEmpty || location = productColumn then none
  else if location = baseColumn then some base
  else (row.factors.get? location).filter (!·.isNaN)

/-- The price of a product at a location; none if the list has no row for the product. -/
def price? (list : PriceList) (productId : String) (location : Option String) : Option Price :=
  (list.row? productId).map fun row =>
    match base? row with
    | none => ⟨0.0, .entity, true, false⟩
    | some base =>
      match location.bind (factor? row base) with
      | some factor => ⟨base * factor, .entity, false, false⟩
      | none => ⟨base * 1.0, .entity, false, true⟩

/-- The price of a product at a location where both are named by a value of any kind. Only texts name
something; what can be no key is handed back, the location only if a base price is there to multiply. -/
def priceOf (list : PriceList) (productId location : Value) : Except Value (Option Price) :=
  if !productId.isKey then .error productId
  else match productId.text?.bind list.row? with
    | none => .ok none
    | some row =>
      if (base? row).isSome && location.isPresent && !location.isKey then .error location
      else .ok (list.price? row.productId location.text?)

end PriceList

end WiringQuote
