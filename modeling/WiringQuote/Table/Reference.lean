import WiringQuote.Session.Source
import WiringQuote.Table.Basic

/-!
# Reference data in tables

The tables in which reference data is stored, and the source that they make. Lists and factors are
stored as values of a data format; a list that is missing is empty, and a factor that is missing is
left out. The markup is a setting that users write; one that cannot be read counts as zero.
-/

namespace WiringQuote

open Decimal Text

namespace Table

/-! ## The tables -/

def packages : Table :=
  ⟨"offers_packages", "OfferPackage", .whole "id", true,
    [.text "name", .text "category", .text "quality_level", .text "description",
      .flag "is_optional"]⟩

def packageItems : Table :=
  ⟨"offers_package_items", "OfferPackageItem", .whole "id", true,
    [.whole "package_id", .text "produkt_gruppe_id", .amount 4 "quantity_base",
      .data "multipliers_material", .data "multipliers_hours", .data "product_selector"]⟩

def productGroups : Table :=
  ⟨"offers_product_groups", "OfferProductGroup", .text "group_id", false, [.text "description"]⟩

def products : Table :=
  ⟨"offers_products", "OfferProduct", .text "product_id", false,
    [.text "name", ⟨"unit", .text, .str "Stk"⟩, .amount 2 "unit_price", .text "produkt_gruppe",
      .text "qualitaetsstufe", .amount 3 "stunden_meister", .amount 3 "stunden_geselle",
      .amount 3 "stunden_monteur", .text "category", .data "availability",
      .whole "module_slots"]⟩

def parameterDefinitions : Table :=
  ⟨"offers_package_parameter_definitions", "OfferParameterDefinition", .text "param_key", false,
    [.text "label", .text "param_type", .text "unit", .text "default_value",
      .flag "is_global", .text "label_true", .text "label_false", .data "options"]⟩

def parameterLinks : Table :=
  ⟨"offers_package_parameter_links", "OfferParameterLink", .whole "id", true,
    [.whole "package_id", .text "param_key"]⟩

def locations : Table :=
  ⟨"offers_locations", "OfferLocation", .text "loc_id", false, [.text "name", .flag "is_current"]⟩

def laborRates : Table :=
  ⟨"offers_labor_rates", "OfferLaborRate", .text "loc_id", false,
    [.amount 2 "stundensatz_meister", .amount 2 "stundensatz_geselle",
      .amount 2 "stundensatz_monteur"]⟩

def productPrices : Table :=
  ⟨"offers_product_prices", "OfferProductPrice", .text "product_id", false,
    [⟨"base_price", .amount 2, .null⟩, .data "factors"]⟩

def settings : Table := ⟨"offers_settings", "OfferSetting", .text "key", false, [.text "value"]⟩

/-- The tables in which reference data is stored. -/
def all : List Table :=
  [packages, packageItems, productGroups, products, parameterDefinitions, parameterLinks, locations,
    laborRates, productPrices, settings]

/-- Refuses rows with a field that is no column; the tables are looked through as they are given. -/
def requireColumns (tables : Value) : Except StoreFault Unit :=
  (tables.fields?.getD []).forM fun given =>
    match all.find? fun table => table.name == given.1 with
    | none => .ok ()
    | some table =>
      match table.unknownColumn? (tables.rowsAt table.name) with
      | some name => .error (.unknownColumn name table.entity)
      | none => .ok ()

/-! ## Fields that are stored as values -/

/-- Why tables make no source. -/
inductive ReadFault where
  | store (fault : StoreFault)
  | notList (fault : Value.NotListed)
  | notObject (kind : String)
  | notFactor (fault : Value.NotFloat)

def ReadFault.message : ReadFault → String
  | .store fault => fault.message
  | .notList fault => fault.message
  | .notObject kind => quoted kind ++ " object has no attribute 'items'"
  | .notFactor fault => fault.message

/-- The row with another value in a column. -/
def withColumn (row : Value) (name : String) (value : Value) : Value :=
  match row with
  | .obj fields => .obj (OrderedMap.put name value fields)
  | row => row

/-- The row with a list in a column. -/
def withList (name : String) (row : Value) : Except ReadFault Value :=
  let value := (row.get? name).getD .null
  if !value.isPresent then .ok (withColumn row name (.list []))
  else do return withColumn row name (.list (← value.listed.mapError .notList))

/-- The row with a number for each factor that is not missing. -/
def withFactors (row : Value) : Except ReadFault Value := do
  let value := (row.get? "factors").getD .null
  if !value.isPresent then return withColumn row "factors" (.obj [])
  match value with
  | .obj fields =>
    let present := fields.filter fun field => match field.2 with
      | .null => false
      | _ => true
    let factors ← present.mapM fun field => do
      return (field.1, Value.float (← field.2.asFloat.mapError .notFactor))
    return withColumn row "factors" (.obj factors)
  | value => throw (.notObject value.kindName)

/-- The row with some of its columns only. -/
def select (names : List String) (row : Value) : Value :=
  .obj (names.map fun name => (name, (row.get? name).getD .null))

/-! ## Settings -/

/-- A markup in percent as users write it. -/
def markupOf (value : Value) : Float := (readFloat? (commaToPoint value.text)).getD 0.0

/-- The value of a setting. -/
def setting (rows : List Value) (key : String) : Value :=
  let row := rows.find? fun row => (settings.keyOf row).text? == some key
  (row.bind fun row => row.get? "value").getD .null

def isCurrent (row : Value) : Bool := ((row.get? "is_current").bind Value.bool?).getD false

/-! ## The source -/

/-- The id of the first location that is marked as the current one. -/
def currentLocation (rows : List Value) : Value :=
  ((rows.find? isCurrent).bind fun row => row.get? "loc_id").getD .null

/-- The source that tables make. -/
def source (tables : Value) : Except ReadFault Source := do
  let rowsOf (table : Table) : Except ReadFault (List Value) :=
    (table.stored tables).mapError .store
  let sortedOf (table : Table) : Except ReadFault (List Value) := (rowsOf table).map table.sorted
  (requireColumns tables).mapError .store
  let packages ← sortedOf packages
  let items ← sortedOf packageItems
  let groups ← sortedOf productGroups
  let products ← sortedOf products
  let parameters ← sortedOf parameterDefinitions
  let links ← sortedOf parameterLinks
  let rates ← sortedOf laborRates
  let prices ← sortedOf productPrices
  let settings ← rowsOf settings
  let stored ← rowsOf locations
  return {
    rows := {
      packages
      items
      products := ← products.mapM (withList "availability")
      groups
      parameters := ← parameters.mapM (withList "options")
      links := links.map (select ["package_id", "param_key"]) }
    rates
    markup := markupOf (setting settings "global_markup_pct")
    prices := ← prices.mapM withFactors
    locations := (locations.sorted stored).map (select ["loc_id", "name"])
    currentLocation := currentLocation stored
    outage := none }

end Table

end WiringQuote
