import WiringQuote.Catalog.Parameter
import WiringQuote.Catalog.Quality
import WiringQuote.Catalog.Selector
import WiringQuote.Formula.Reader

/-!
# The catalog

The reference data that quotes are resolved against: packages with their rules, products, product
groups and parameters. It is read from rows once and never changes. A row that is no row of its kind
is left out; a catalog without packages or without products is refused.
-/

namespace WiringQuote

open Decimal

/-- How much of a product group a package needs, ready for evaluation. -/
structure Rule where
  id : Int
  packageId : Int
  group : String
  base : Float
  material : Formula
  hours : Formula
  selector : Selector

/-- Reads the formulas and the selector of a package item; the depth is that of formula texts. -/
def Rule.ofItem (depth : Nat) (item : PackageItem) : Except Formula.ReadFault Rule := do
  return {
    id := item.id
    packageId := item.packageId
    group := item.group
    base := plainZero item.base
    material := ← Formula.read depth item.material
    hours := ← Formula.read depth item.hours
    selector := ← (Selector.read item.selector).mapError .arithmetic }

/-- The reference data of a configuration. -/
structure Catalog where
  packages : OrderedMap Int Package
  rules : List Rule
  products : List Product
  groups : OrderedMap String ProductGroup
  parameters : OrderedMap String ParameterDefinition
  links : List ParameterLink

/-- The rows that a catalog is read from. -/
structure Catalog.Rows where
  packages : List Value
  items : List Value
  products : List Value
  groups : List Value
  parameters : List Value
  links : List Value

/-- The rows under the names by which stored reference data lists them. A list that is absent or
empty has no rows. -/
def Catalog.Rows.ofData (data : Value) : Except Value.NotListed Rows := do
  return {
    packages := ← data.presentAt "packages"
    items := ← data.presentAt "package_items"
    products := ← data.presentAt "products"
    groups := ← data.presentAt "product_groups"
    parameters := ← data.presentAt "parameter_definitions"
    links := ← data.presentAt "parameter_links" }

/-- Why rows make no catalog. -/
inductive CatalogFault where
  | incomplete (packages products : Nat)
  | formula (fault : Formula.ReadFault)

def CatalogFault.message : CatalogFault → String
  | .incomplete packages products =>
    "Catalog incomplete: " ++ natText packages ++ " packages, " ++ natText products ++ " products"
  | .formula fault => fault.message

namespace Catalog

/-- Values under their keys; a later value of a key replaces an earlier one in its place. -/
def keyed {κ α : Type} [DecidableEq κ] (key : α → κ) (items : List α) : OrderedMap κ α :=
  .ofList (items.map fun item => (key item, item))

/-- The catalog of the valid rows; the depth is that of formula texts. -/
def ofRows (depth : Nat) (rows : Rows) : Except CatalogFault Catalog := do
  let rules ← ((rows.items.filterMap PackageItem.ofRow?).mapM (Rule.ofItem depth)).mapError .formula
  let packages := keyed Package.id (rows.packages.filterMap Package.ofRow?)
  let products := rows.products.filterMap Product.ofRow?
  if packages.isEmpty || products.isEmpty then
    throw (.incomplete packages.size products.length)
  return {
    packages
    rules
    products
    groups := keyed ProductGroup.id (rows.groups.filterMap ProductGroup.ofRow?)
    parameters := keyed ParameterDefinition.key
      (rows.parameters.filterMap ParameterDefinition.ofRow?)
    links := rows.links.filterMap ParameterLink.ofRow? }

/-! ## Packages, rules and products -/

/-- The package whose id is worth the same. -/
def package? (catalog : Catalog) (id : Value) : Option Package :=
  id.whole?.bind catalog.packages.get?

/-- The rules of a package in the order of their rows. -/
def rulesOf (catalog : Catalog) (packageId : Value) : List Rule :=
  catalog.rules.filter fun rule => packageId.whole? = some rule.packageId

/-- The first product row with the id. -/
def product? (catalog : Catalog) (id : String) : Option Product :=
  catalog.products.find? fun product => product.id = id

/-- The products of a group, or those without one, wherever they are available. -/
def productsInGroup (catalog : Catalog) (group : Option String) : List Product :=
  catalog.products.filter fun product => product.group = group

/-- The products of a group that are available at a location, in catalog order. -/
def availableInGroup (catalog : Catalog) (group location : Option String) : List Product :=
  (catalog.productsInGroup group).filter (·.isAvailableAt location)

/-- The products that can stand in for one of a group; a product without a group has none. -/
def alternatives (catalog : Catalog) (group location : Option String) : List Product :=
  match group with
  | none => []
  | some name => if name.isEmpty then [] else catalog.availableInGroup (some name) location

/-! ## Parameters -/

/-- The parameters that a package asks for, each once. -/
def localKeys (catalog : Catalog) (packageId : Value) : List String :=
  Quality.distinct
    ((catalog.links.filter fun link => packageId.whole? = some link.packageId).map (·.key))

def globalParameters (catalog : Catalog) : List ParameterDefinition :=
  catalog.parameters.values.filter (·.isGlobal)

/-- The defaults that are values of their parameter. -/
def defaults (definitions : List ParameterDefinition) : Environment :=
  definitions.foldl (fun values definition =>
    match definition.default with
    | none => values
    | some text =>
      match definition.coerce (.str text) with
      | .ok value => values.insert definition.key value
      | .error _ => values) .empty

def defaultGlobals (catalog : Catalog) : Environment := defaults catalog.globalParameters

/-- The definitions of the parameters that a package asks for. -/
def localParameters (catalog : Catalog) (packageId : Value) : List ParameterDefinition :=
  (catalog.localKeys packageId).filterMap catalog.parameters.get?

def defaultLocals (catalog : Catalog) (packageId : Value) : Environment :=
  defaults (catalog.localParameters packageId)

/-- The value is one of the quality tiers. -/
def isQualityLevel : Value → Bool
  | .str s => Quality.levels.contains s
  | _ => false

/-- The stored form of a global parameter's value. The requested quality tier is known to every
catalog, also to one that does not define it. -/
def coerceGlobal (catalog : Catalog) (key : String) (value : Value) :
    Except ParameterFault Value :=
  match catalog.parameters.get? key with
  | some definition => if definition.isGlobal then definition.coerce value else .error (.notGlobal key)
  | none =>
    if key = Quality.parameter then
      if isQualityLevel value then .ok value else .error (.notAQualityLevel Quality.levels value)
    else .error (.unknown key)

/-- The stored form of the value of a parameter that a package asks for. -/
def coerceLocal (catalog : Catalog) (packageId : Value) (key : String) (value : Value) :
    Except ParameterFault Value :=
  match catalog.parameters.get? key with
  | some definition =>
    if (catalog.localKeys packageId).contains key then definition.coerce value
    else .error (.notExposed key packageId)
  | none => .error (.notExposed key packageId)

end Catalog

end WiringQuote
