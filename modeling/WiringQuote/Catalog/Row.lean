import WiringQuote.Role
import WiringQuote.Value.Field

/-!
# Rows of the reference data

What the reference data consists of, and how each kind of row is read. A row with an unsuitable or
missing field is no row of its kind; unknown fields are ignored.
-/

namespace WiringQuote

open Value

/-- A bundle of installation work that can be selected. -/
structure Package where
  id : Int
  name : String
  category : Option String
  qualityLevel : Option String
  description : Option String
  isOptional : Bool

/-- How much of a product group a package needs, as stored. -/
structure PackageItem where
  id : Int
  packageId : Int
  group : String
  base : Float
  material : Value
  hours : Value
  selector : Value

structure ProductGroup where
  id : String
  description : Option String

/-- A product with its price and the hours per unit of each role. -/
structure Product where
  id : String
  name : String
  unit : String
  unitPrice : Float
  group : Option String
  quality : Option String
  hours : PerRole Float
  category : Option String
  /-- The names of the locations that the product is restricted to; none means everywhere. -/
  availability : List String
  /-- The capacity of an enclosure. -/
  moduleSlots : Option Int

inductive ParameterKind where
  | boolean
  | number
  | select
  | text
deriving DecidableEq, Repr

structure ParameterDefinition where
  key : String
  label : String
  kind : ParameterKind
  unit : Option String
  default : Option String
  isGlobal : Bool
  labelTrue : Option String
  labelFalse : Option String
  options : List String

/-- A package asks for a parameter. -/
structure ParameterLink where
  packageId : Int
  key : String

structure Location where
  id : String
  name : String

/-- The hourly wages at a location. -/
structure LaborRates where
  locationId : String
  wages : PerRole Float

/-- The base price of a product and its factor for each location name. -/
structure ProductPrice where
  productId : String
  basePrice : Option Float
  factors : OrderedMap String Float

/-! ## Reading -/

def Package.ofRow? (row : Value) : Option Package := do
  return {
    id := ← row.required "id" int?
    name := ← row.required "name" text?
    category := ← row.optional "category" text?
    qualityLevel := ← row.optional "quality_level" text?
    description := ← row.optional "description" text?
    isOptional := ← row.defaulted "is_optional" bool? false }

def PackageItem.ofRow? (row : Value) : Option PackageItem := do
  return {
    id := ← row.required "id" int?
    packageId := ← row.required "package_id" int?
    group := ← row.required "produkt_gruppe_id" text?
    base := ← row.defaulted "quantity_base" float? 0.0
    material := (row.get? "multipliers_material").getD .null
    hours := (row.get? "multipliers_hours").getD .null
    selector := .obj ((← row.optional "product_selector" fields?).getD []) }

def ProductGroup.ofRow? (row : Value) : Option ProductGroup := do
  return {
    id := ← row.required "group_id" text?
    description := ← row.optional "description" text? }

def Product.ofRow? (row : Value) : Option Product := do
  return {
    id := ← row.required "product_id" text?
    name := ← row.required "name" text?
    unit := ← row.defaulted "unit" text? "Stk"
    unitPrice := ← row.defaulted "unit_price" float? 0.0
    group := ← row.optional "produkt_gruppe" text?
    quality := ← row.optional "qualitaetsstufe" text?
    hours := ⟨← row.defaulted "stunden_meister" float? 0.0,
      ← row.defaulted "stunden_geselle" float? 0.0,
      ← row.defaulted "stunden_monteur" float? 0.0⟩
    category := ← row.optional "category" text?
    availability := ← row.defaulted "availability" texts? []
    moduleSlots := ← row.optional "module_slots" int? }

def ParameterKind.ofValue? : Value → Option ParameterKind
  | .str s =>
    if s = "boolean" then some .boolean
    else if s = "number" then some .number
    else if s = "select" then some .select
    else if s = "string" then some .text
    else none
  | _ => none

def ParameterKind.name : ParameterKind → String
  | .boolean => "boolean"
  | .number => "number"
  | .select => "select"
  | .text => "string"

def ParameterDefinition.ofRow? (row : Value) : Option ParameterDefinition := do
  return {
    key := ← row.required "param_key" text?
    label := ← row.required "label" text?
    kind := ← row.required "param_type" ParameterKind.ofValue?
    unit := ← row.optional "unit" text?
    default := ← row.optional "default_value" text?
    isGlobal := ← row.defaulted "is_global" bool? false
    labelTrue := ← row.optional "label_true" text?
    labelFalse := ← row.optional "label_false" text?
    options := ← row.defaulted "options" texts? [] }

def ParameterLink.ofRow? (row : Value) : Option ParameterLink := do
  return {
    packageId := ← row.required "package_id" int?
    key := ← row.required "param_key" text? }

def Location.ofRow? (row : Value) : Option Location := do
  return {
    id := ← row.required "loc_id" text?
    name := ← row.required "name" text? }

def LaborRates.ofRow? (row : Value) : Option LaborRates := do
  return {
    locationId := ← row.required "loc_id" text?
    wages := ⟨← row.defaulted "stundensatz_meister" float? 0.0,
      ← row.defaulted "stundensatz_geselle" float? 0.0,
      ← row.defaulted "stundensatz_monteur" float? 0.0⟩ }

def ProductPrice.ofRow? (row : Value) : Option ProductPrice := do
  return {
    productId := ← row.required "product_id" text?
    basePrice := ← row.optional "base_price" float?
    factors := ← row.defaulted "factors" (mapOf? float?) .empty }

/-! ## Figures -/

/-- Zero for either zero; every other number is kept. -/
def plainZero (x : Float) : Float := if x == 0 then 0.0 else x

/-- The hours per unit that count for a role. -/
def Product.hoursFor (product : Product) (role : Role) : Float := plainZero (product.hours.get role)

/-- The wage that a location pays a role. -/
def LaborRates.wageFor (rates : LaborRates) (role : Role) : Float := plainZero (rates.wages.get role)

/-- Products without tags are available everywhere, tagged ones at the listed locations only. -/
def Product.isAvailableAt (product : Product) (location : Option String) : Bool :=
  product.availability.isEmpty ||
    match location with
    | none => false
    | some name => product.availability.contains name

end WiringQuote
