import WiringQuote.Session.Basic
import WiringQuote.Session.Fault

/-!
# Where reference data comes from

A source answers inquiries with rows. A session is loaded from a source once: the catalog first,
then the wages, the markup, the prices and the locations, and the location that is set as current if
the caller asks for none. A source may be out of order for one inquiry, which ends the loading there.
-/

namespace WiringQuote

open Decimal

/-- What a source is asked for, in the order in which a session is loaded. -/
inductive Inquiry where
  | packages
  | packageItems
  | productGroups
  | products
  | parameterDefinitions
  | parameterLinks
  | laborRates
  | markup
  | productPrices
  | locations
  | currentLocation
deriving DecidableEq, Repr

/-- The inquiries that the catalog is made from. -/
def Inquiry.isOfCatalog : Inquiry → Bool
  | .packages | .packageItems | .productGroups | .products | .parameterDefinitions
  | .parameterLinks => true
  | _ => false

/-- An inquiry that cannot be answered, and why. -/
structure Outage where
  inquiry : Inquiry
  reason : String

/-- The answers of a source. -/
structure Source where
  rows : Catalog.Rows
  rates : List Value
  markup : Float
  prices : List Value
  locations : List Value
  /-- The id of the current location; null if there is none. -/
  currentLocation : Value
  outage : Option Outage
  /-- How many lists and objects may be open at once where its formula texts are read. -/
  depth : Nat := Json.usualDepth

/-- Why no session can be loaded. -/
inductive LoadFault where
  /-- An inquiry for the catalog is not answered. -/
  | noCatalog (reason : String)
  /-- Another inquiry is not answered. -/
  | noAnswer (reason : String)
  | catalog (fault : CatalogFault)
  /-- A location is asked for by what is no key. -/
  | unusableKey (kind : String)
  | arithmetic (fault : Fault)

def LoadFault.message : LoadFault → String
  | .noCatalog reason => "Catalog load failed: " ++ reason
  | .noAnswer reason => reason
  | .catalog fault => fault.message
  | .unusableKey kind => (SessionFault.unusableKey kind).message
  | .arithmetic fault => fault.message

/-- Why data makes no source. -/
inductive SourceFault where
  | notListed (fault : Value.NotListed)
  | notMarkup (fault : Value.NotFloat)

def SourceFault.message : SourceFault → String
  | .notListed fault => fault.message
  | .notMarkup fault => fault.message

namespace Source

/-- The source of rows that are listed by kind in one object, and of a markup beside them. -/
def ofData (data : Value) : Except SourceFault Source := do
  let rowsAt (key : String) : Except SourceFault (List Value) :=
    (data.listedAt key).mapError .notListed
  let packages ← rowsAt "packages"
  let items ← rowsAt "package_items"
  let groups ← rowsAt "product_groups"
  let products ← rowsAt "products"
  let parameters ← rowsAt "parameter_definitions"
  let links ← rowsAt "parameter_links"
  let rates ← rowsAt "labor_rates"
  let markup ← ((data.get? "global_markup_pct").getD (.float 0.0)).asFloat.mapError .notMarkup
  let prices ← rowsAt "product_prices"
  let locations ← rowsAt "locations"
  return {
    rows := { packages, items, products, groups, parameters, links }
    rates
    markup
    prices
    locations
    currentLocation := (data.get? "current_location_id").getD .null
    outage := none }

/-- The reason why one of the inquiries is not answered. -/
def failure? (source : Source) (asked : Inquiry → Bool) : Option String :=
  (source.outage.filter fun outage => asked outage.inquiry).map (·.reason)

/-- The catalog, if every inquiry for it is answered. -/
def catalog (source : Source) : Except LoadFault Catalog :=
  match source.failure? Inquiry.isOfCatalog with
  | some reason => .error (.noCatalog reason)
  | none => (Catalog.ofRows source.depth source.rows).mapError .catalog

/-- The valid rows around a catalog. -/
def reference (source : Source) (catalog : Catalog) : Reference :=
  { catalog
    locations := Catalog.keyed Location.id (source.locations.filterMap Location.ofRow?)
    rates := Catalog.keyed LaborRates.locationId (source.rates.filterMap LaborRates.ofRow?)
    markup := source.markup
    priceList := ⟨source.prices.filterMap ProductPrice.ofRow?⟩ }

/-- The current location is only inquired if no location is asked for. -/
def asks (asked : Value) (inquiry : Inquiry) : Bool :=
  !inquiry.isOfCatalog && (inquiry != .currentLocation || asked.isNull)

end Source

/-- A new session with the data of a source. No location is asked for by null. -/
def Session.load (source : Source) (asked : Value) : Except LoadFault Session := do
  let catalog ← source.catalog
  match source.failure? (Source.asks asked) with
  | some reason => throw (.noAnswer reason)
  | none =>
    let location := if asked.isNull then source.currentLocation else asked
    if location.isPresent && !location.isKey then throw (.unusableKey location.kindName)
    (Session.start (source.reference catalog) location).mapError .arithmetic

end WiringQuote
