import WiringQuote.Catalog.Basic

/-!
# Product selection

The product for a rule: the one that its selector names for the quantity, else the one that it names
for every quantity, each only if it is available at the location; else the first available product
of the rule's group in the best quality tier.
-/

namespace WiringQuote.Catalog

/-- What a product is chosen for. -/
structure Demand where
  quantity : Number
  packageQuality : Option String
  globalQuality : Option String
  location : Option String

/-- The first row of a product, if it is available at the location. -/
def availableProduct? (catalog : Catalog) (id : String) (location : Option String) :
    Option Product :=
  (catalog.product? id).filter (·.isAvailableAt location)

/-- The first product of the first tier that has one. -/
def bestOf (products : List Product) (tiers : List String) : Option Product :=
  tiers.findSome? fun tier => products.find? fun product => product.quality = some tier

/-- The first available product of a group in the best of the tiers. -/
def selectByQuality (catalog : Catalog) (group : String) (tiers : List String)
    (location : Option String) : Option Product :=
  bestOf (catalog.availableInGroup (some group) location) tiers

/-- The product for a rule. -/
def select (catalog : Catalog) (rule : Rule) (demand : Demand) : Option Product :=
  let named (id : Option String) := id.bind fun id => catalog.availableProduct? id demand.location
  (named (rule.selector.bucketProduct? demand.quantity)).orElse fun _ =>
    (named rule.selector.fixed).orElse fun _ =>
      catalog.selectByQuality rule.group
        (Quality.chain [demand.globalQuality, demand.packageQuality]) demand.location

end WiringQuote.Catalog
