import WiringQuote.Catalog.Basic
import WiringQuote.Diagnostic

/-!
# Reference data as values

How packages, products, parameters and diagnostics are written in answers.
-/

namespace WiringQuote

open Value

/-- A map as an object. -/
def OrderedMap.toValue {α : Type} (toValue : α → Value) (m : OrderedMap String α) : Value :=
  .obj (m.entries.map fun (key, a) => (key, toValue a))

/-- One figure per role. -/
def PerRole.toValue {α : Type} (toValue : α → Value) (p : PerRole α) : Value :=
  .obj (p.toList.map fun (role, a) => (role.name, toValue a))

/-- The figures of the roles that have one. -/
def PerRole.toPartialValue {α : Type} (toValue : α → Value) (p : PerRole (Option α)) : Value :=
  .obj (p.toList.filterMap fun (role, a) => a.map fun a => (role.name, toValue a))

def Environment.toValue (env : Environment) : Value := OrderedMap.toValue id env

def Package.toValue (package : Package) : Value :=
  .obj [
    ("id", .int package.id),
    ("name", .str package.name),
    ("category", ofOption .str package.category),
    ("quality_level", ofOption .str package.qualityLevel),
    ("description", ofOption .str package.description),
    ("is_optional", .bool package.isOptional)]

def Product.toValue (product : Product) : Value :=
  .obj [
    ("product_id", .str product.id),
    ("name", .str product.name),
    ("unit", .str product.unit),
    ("unit_price", .float product.unitPrice),
    ("produkt_gruppe", ofOption .str product.group),
    ("qualitaetsstufe", ofOption .str product.quality),
    ("stunden_meister", .float product.hours.meister),
    ("stunden_geselle", .float product.hours.geselle),
    ("stunden_monteur", .float product.hours.monteur),
    ("category", ofOption .str product.category),
    ("availability", .list (product.availability.map .str)),
    ("module_slots", ofOption .int product.moduleSlots)]

def ParameterDefinition.toValue (definition : ParameterDefinition) : Value :=
  .obj [
    ("param_key", .str definition.key),
    ("label", .str definition.label),
    ("param_type", .str definition.kind.name),
    ("unit", ofOption .str definition.unit),
    ("default_value", ofOption .str definition.default),
    ("is_global", .bool definition.isGlobal),
    ("label_true", ofOption .str definition.labelTrue),
    ("label_false", ofOption .str definition.labelFalse),
    ("options", .list (definition.options.map .str))]

def Diagnostic.toValue (diagnostic : Diagnostic) : Value :=
  .obj [
    ("code", .str diagnostic.code),
    ("message", .str diagnostic.message),
    ("context", .obj diagnostic.context)]

end WiringQuote
