import WiringQuote.Configuration
import WiringQuote.Pricing.Quote
import WiringQuote.Session.Override

/-!
# Sessions

A session is reference data, a store of what was selected and set, and the display that the store was
last resolved to. `display` is a function of the reference data and the store alone: user settings
are an overlay over freshly resolved rows, found again by row id.
-/

namespace WiringQuote

open Decimal

/-- The data that a session is built on; it never changes. -/
structure Reference where
  catalog : Catalog
  locations : OrderedMap String Location
  rates : OrderedMap String LaborRates
  markup : Float
  priceList : PriceList

/-- What a user has set, by row id. -/
structure Overlay where
  prices : OrderedMap String Float
  markups : OrderedMap String Float
  hours : OrderedMap String (PerRole (Option Float))
  quantities : OrderedMap String Int
  swaps : OrderedMap String String
  /-- The ids of removed rows, each once. -/
  removed : List String

/-- A selected package. -/
structure Selection where
  packageId : Value
  params : Environment

/-- What was selected and set. -/
structure Store where
  location : Option String
  /-- What was found missing for the wages at the location when they were last checked. -/
  rateDiagnostics : List Diagnostic
  globals : Environment
  instances : OrderedMap String Selection
  overlay : Overlay
  wages : PerRole (Option Float)

/-- What a session shows. -/
structure Display where
  items : List LineItem
  protection : List LineItem
  diagnostics : List Diagnostic

structure Session where
  reference : Reference
  store : Store
  display : Display

/-! ## The overlay -/

namespace Overlay

def empty : Overlay := ⟨.empty, .empty, .empty, .empty, .empty, []⟩

/-- Without the settings of the rows whose id starts so. -/
def dropRows (overlay : Overlay) (start : String) : Overlay :=
  let keep (id : String) : Bool := !id.startsWith start
  { prices := overlay.prices.filterKeys keep
    markups := overlay.markups.filterKeys keep
    hours := overlay.hours.filterKeys keep
    quantities := overlay.quantities.filterKeys keep
    swaps := overlay.swaps.filterKeys keep
    removed := overlay.removed.filter keep }

/-- The product can stand in for the row's at a location. -/
def isAlternative (location : Option String) (item : LineItem) (product : Product) : Bool :=
  decide (product.group = item.group) && product.isAvailableAt location

/-- The row with the product that it was swapped to, as long as that product can stand in. -/
def swapRow (overlay : Overlay) (catalog : Catalog) (location : Option String)
    (item : LineItem) : Except Fault LineItem :=
  match (overlay.swaps.get? item.id).filter fun id => !id.isEmpty && id != item.productId with
  | none => .ok item
  | some id =>
    match (catalog.product? id).filter (isAlternative location item) with
    | none => .ok item
    | some product => item.withProduct product

/-- The row with its swap and its set quantity. -/
def reviseRow (overlay : Overlay) (catalog : Catalog) (location : Option String)
    (item : LineItem) : Except Fault LineItem := do
  let swapped ← overlay.swapRow catalog location item
  match overlay.quantities.get? swapped.id with
  | some quantity => swapped.withQuantity (.int quantity)
  | none => return swapped

/-- Rows by selected package and product. -/
abbrev Rows := OrderedMap (String × String) LineItem

/-- Adds a row. Two rows of one selected package with one product become one; the row whose product
it is from the start absorbs the other, else the earlier one does. -/
def addRow (rows : Rows) (item : LineItem) : Except Fault Rows :=
  let key := (item.instanceId, item.productId)
  match rows.get? key with
  | none => .ok (rows.insert key item)
  | some existing => do
    let merged ←
      if item.id = lineItemId item.instanceId item.productId then item.merge existing
      else existing.merge item
    return rows.insert key merged

/-- Removals, swaps and set quantities. -/
def revise (overlay : Overlay) (catalog : Catalog) (location : Option String) : Revision :=
  fun items => do
    let kept := items.filter fun item => !overlay.removed.contains item.id
    let rows ← kept.foldlM (fun rows item => do
      addRow rows (← overlay.reviseRow catalog location item)) .empty
    return rows.values

/-- The set hours of a row over its resolved ones. -/
def withManual (manual : PerRole (Option Float)) (hours : PerRole Float) : PerRole Float :=
  manual.zipWith (fun set resolved => set.getD resolved) hours

/-- The row with its set price, markup and hours. -/
def valueRow (overlay : Overlay) (item : LineItem) : LineItem :=
  let manual := (overlay.hours.get? item.id).getD (.const none)
  { item with
    localPrice := (overlay.prices.get? item.id).map .float
    localMarkup := (overlay.markups.get? item.id).map .float
    manualHours := manual
    hoursTotal := withManual manual item.hoursTotal }

end Overlay

/-! ## Locations and wages -/

namespace Reference

/-- The location of a session that names none. -/
def defaultLocation : String := "1"

/-- The asked location if it is known, else the default one, else the first. -/
def initialLocation (reference : Reference) (asked : Value) : Option String :=
  match asked.text?.filter fun id => !id.isEmpty && reference.locations.contains id with
  | some id => some id
  | none =>
    if reference.locations.contains defaultLocation then some defaultLocation
    else reference.locations.keys.head?

/-- What is missing for the wages at a location. -/
def rateDiagnostics (reference : Reference) (location : Option String) : List Diagnostic :=
  if (location.bind reference.rates.get?).isSome then [] else [.missingRates location]

def locationName (reference : Reference) (location : Option String) : Option String :=
  ((location.filter (!·.isEmpty)).bind reference.locations.get?).map (·.name)

/-- The wage of each role: the set one, else that of the location, else none. -/
def wages (reference : Reference) (location : Option String) (set : PerRole (Option Float)) :
    PerRole Float :=
  let rates := (location.filter (!·.isEmpty)).bind reference.rates.get?
  .ofFn fun role => (set.get role).getD ((rates.map (·.wageFor role)).getD 0.0)

end Reference

/-! ## Resolving a store -/

namespace Store

/-- The store once it is checked that there are wages for its location. -/
def checkRates (reference : Reference) (store : Store) : Store :=
  { store with rateDiagnostics := reference.rateDiagnostics store.location }

/-- The store of a new session. -/
def initial (reference : Reference) (asked : Value) : Store :=
  checkRates reference {
    location := reference.initialLocation asked
    rateDiagnostics := []
    globals := reference.catalog.defaultGlobals
    instances := .empty
    overlay := .empty
    wages := .const none }

def instanceList (store : Store) : List Instance :=
  store.instances.entries.map fun (id, selection) => ⟨id, selection.packageId, selection.params⟩

def configuration (reference : Reference) (store : Store) : Configuration :=
  ⟨store.instanceList, store.globals, reference.locationName store.location⟩

/-- The display of a store. -/
def display (reference : Reference) (store : Store) : Except Fault Display := do
  let configuration := store.configuration reference
  let revise := store.overlay.revise reference.catalog configuration.location
  let result ← Configuration.resolve reference.catalog revise configuration
  return {
    items := result.items.map store.overlay.valueRow
    protection := result.protection.map store.overlay.valueRow
    diagnostics := store.rateDiagnostics ++ result.diagnostics }

end Store

namespace Session

/-- A new session: nothing is selected or set. -/
def start (reference : Reference) (asked : Value) : Except Fault Session := do
  let store := Store.initial reference asked
  return ⟨reference, store, ← store.display reference⟩

def catalog (session : Session) : Catalog := session.reference.catalog

/-- All displayed rows, protection devices last. -/
def rows (session : Session) : List LineItem := session.display.items ++ session.display.protection

/-- The first displayed row with an id. -/
def row? (session : Session) (itemId : String) : Option LineItem :=
  session.rows.find? fun item => item.id = itemId

def locationName (session : Session) : Option String :=
  session.reference.locationName session.store.location

def wages (session : Session) : PerRole Float :=
  session.reference.wages session.store.location session.store.wages

def pricing (session : Session) : Pricing :=
  ⟨session.reference.priceList, session.locationName, session.reference.markup, session.wages⟩

end Session

end WiringQuote
