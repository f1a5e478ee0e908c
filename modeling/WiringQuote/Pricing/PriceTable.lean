import WiringQuote.Pricing.PriceList

/-!
# The price list as one table

The rows of a price list share one table: a column for the base price and one for each location that
some row has a factor for. A row without a factor for one of these locations has an empty cell there, an
undefined number. A location that is named like the product column or the base price column gets no
column of its own; the column of the base prices is found under its name all the same.
-/

namespace WiringQuote

/-- Columns by name, and for each product a row with one cell in each of them. -/
structure PriceTable where
  columns : List String
  rows : List (String × Vector Float columns.length)

namespace PriceTable

/-- What an empty cell holds. -/
def blank : Float := 0.0 / 0.0

/-! ## Filling the table -/

/-- The named cells of a row of the list. -/
def record (row : ProductPrice) : OrderedMap String Float :=
  (OrderedMap.empty.insert PriceList.baseColumn (row.basePrice.getD blank)).overlay
    (row.factors.filterKeys fun location =>
      location != PriceList.productColumn && location != PriceList.baseColumn)

/-- The columns that rows of the list need, in the order in which they come. -/
def columnsOf (rows : List ProductPrice) : List String :=
  if rows.isEmpty then [PriceList.baseColumn]
  else (rows.flatMap fun row => (record row).keys).eraseDups

/-- The cells of a row; those that it does not name are empty. -/
def cellsOf (columns : List String) (row : ProductPrice) : Vector Float columns.length :=
  Vector.ofFn fun i => ((record row).get? (columns.get i)).getD blank

/-- The last row of each product. -/
def keepLast {α : Type} : List (String × α) → List (String × α)
  | [] => []
  | row :: rest =>
    if rest.any fun later => later.1 = row.1 then keepLast rest else row :: keepLast rest

/-- The table of a price list. -/
def ofRows (rows : List ProductPrice) : PriceTable where
  columns := columnsOf rows
  rows := keepLast (rows.map fun row => (row.productId, cellsOf (columnsOf rows) row))

/-! ## Looking prices up -/

variable (table : PriceTable)

/-- The cells of a product. -/
def row? (productId : String) : Option (Vector Float table.columns.length) :=
  (table.rows.find? fun row => row.1 = productId).map (·.2)

/-- The number in a column, if there is the column and its cell is not empty. -/
def number? (cells : Vector Float table.columns.length) (column : String) : Option Float :=
  ((table.columns.finIdxOf? column).map cells.get).filter (!·.isNaN)

/-- The factor at a location that has a name. -/
def factor? (cells : Vector Float table.columns.length) (location : String) : Option Float :=
  if location.isEmpty then none else table.number? cells location

/-- The price of a row at a location. -/
def priceIn (cells : Vector Float table.columns.length) (location : Option String) : Price :=
  match table.number? cells PriceList.baseColumn with
  | none => ⟨0.0, .entity, true, false⟩
  | some base =>
    match location.bind (table.factor? cells) with
    | some factor => ⟨base * factor, .entity, false, false⟩
    | none => ⟨base * 1.0, .entity, false, true⟩

/-- The price of a product at a location; none if the table has no row for the product. -/
def price? (productId : String) (location : Option String) : Option Price :=
  (table.row? productId).map fun cells => table.priceIn cells location

end PriceTable

end WiringQuote
