import WiringQuote.Export.Catalog

/-!
# Saved states

What is stored of a session: the selection, the parameters and what the user has set. Reading checks
the kinds of the fields only; whether the entries still fit the reference data is decided when the
state is restored.
-/

namespace WiringQuote

open Value

/-- A selected package in a saved state. -/
structure SavedInstance where
  id : String
  packageId : Int
  params : OrderedMap String Value

/-- A stored session. -/
structure SavedState where
  location : Option String
  globals : OrderedMap String Value
  instances : List SavedInstance
  prices : OrderedMap String Float
  markups : OrderedMap String Float
  hours : OrderedMap String (OrderedMap String Float)
  quantities : OrderedMap String Int
  swaps : OrderedMap String String
  removed : List String
  wages : OrderedMap String Float

def SavedInstance.ofValue? (v : Value) : Option SavedInstance := do
  return {
    id := ← v.required "instance_id" text?
    packageId := ← v.required "package_id" int?
    params := ← v.defaulted "params" map? .empty }

/-- The state that an object writes. -/
def SavedState.ofValue? (v : Value) : Option SavedState := do
  let _ ← v.fields?
  return {
    location := ← v.optional "location_id" text?
    globals := ← v.defaulted "global_params" map? .empty
    instances := ← v.defaulted "instances"
      (fun v => v.list?.bind fun items => items.mapM SavedInstance.ofValue?) []
    prices := ← v.defaulted "local_prices" (mapOf? float?) .empty
    markups := ← v.defaulted "local_markups" (mapOf? float?) .empty
    hours := ← v.defaulted "manual_hours" (mapOf? (mapOf? float?)) .empty
    quantities := ← v.defaulted "quantities" (mapOf? int?) .empty
    swaps := ← v.defaulted "swaps" (mapOf? text?) .empty
    removed := ← v.defaulted "removed" texts? []
    wages := ← v.defaulted "wage_overrides" (mapOf? float?) .empty }

def SavedInstance.toValue (saved : SavedInstance) : Value :=
  .obj [("instance_id", .str saved.id), ("package_id", .int saved.packageId),
    ("params", saved.params.toValue fun v => v)]

def SavedState.toValue (state : SavedState) : Value :=
  .obj [
    ("location_id", ofOption .str state.location),
    ("global_params", state.globals.toValue fun v => v),
    ("instances", .list (state.instances.map (·.toValue))),
    ("local_prices", state.prices.toValue .float),
    ("local_markups", state.markups.toValue .float),
    ("manual_hours", state.hours.toValue (·.toValue .float)),
    ("quantities", state.quantities.toValue .int),
    ("swaps", state.swaps.toValue .str),
    ("removed", .list (state.removed.map .str)),
    ("wage_overrides", state.wages.toValue .float)]

end WiringQuote
