import WiringQuote.Enclosure
import WiringQuote.Protection.Derive

/-!
# Resolving a configuration

From the selected packages and the parameters to the rows of a quote: quantities, rows of products,
protection devices, enclosure size. A `revise` step, in which a user's removals, swaps and quantities
are merged in, is applied to the product rows before protection devices are derived from them, and
to the protection rows before the enclosure is sized.
-/

namespace WiringQuote

open Decimal

/-- What a configuration is resolved from. -/
structure Configuration where
  instances : List Instance
  globals : Environment
  location : Option String

/-- The rows of a configuration with its quantities and diagnostics. -/
structure Configuration.Result where
  items : List LineItem
  protection : List LineItem
  quantities : Resolution
  diagnostics : List Diagnostic

/-- A change to a list of rows. -/
abbrev Revision := List LineItem → Except Fault (List LineItem)

/-- The revision that changes nothing. -/
def Revision.none : Revision := .ok

namespace Configuration

/-- The requested quality tier, if one is set. -/
def globalQuality (configuration : Configuration) : Option String :=
  ((configuration.globals.get? Quality.parameter).filter (·.isPresent)).map (·.text)

def preference (configuration : Configuration) : Preference :=
  ⟨configuration.globalQuality, configuration.location⟩

/-- The rows of a configuration. -/
def resolve (catalog : Catalog) (revise : Revision) (configuration : Configuration) :
    Except Fault Result := do
  let preference := configuration.preference
  let quantities ← Resolution.resolve catalog configuration.instances configuration.globals
  let built ← LineItem.build catalog preference quantities
  let revised ← revise built.rows.values
  let derived ← Protection.derive catalog preference revised
  let protection ← revise derived.rows.values
  let (items, enclosure) ← Enclosure.resize catalog preference revised protection
  return {
    items
    protection
    quantities
    diagnostics :=
      quantities.diagnostics ++ built.diagnostics ++ derived.diagnostics ++ enclosure }

def Result.all (result : Result) : List LineItem := result.items ++ result.protection

end Configuration

end WiringQuote
