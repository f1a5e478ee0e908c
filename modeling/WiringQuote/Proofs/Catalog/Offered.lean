import WiringQuote.Enclosure
import WiringQuote.Proofs.Catalog.Quality
import WiringQuote.Session.Basic

/-!
# Products on offer

A product is offered at a location if it is listed in the catalog and available there. However a product
is chosen, it is offered.

* `select_offers`, `selectByQuality_offers`: the products of rules and of protection devices.
* `productFor_offers`: the enclosures of a tier.
-/

namespace WiringQuote

namespace Catalog

variable {catalog : Catalog} {location : Option String} {product : Product}

/-- The product is listed, and available at the location. -/
structure Offers (catalog : Catalog) (location : Option String) (product : Product) : Prop where
  listed : product ∈ catalog.products
  available : product.Available location

theorem offers_of_inGroup {group : Option String}
    (listed : product ∈ catalog.availableInGroup group location) : catalog.Offers location product := by
  obtain ⟨inGroup, available⟩ := List.mem_filter.1 listed
  exact ⟨(List.mem_filter.1 inGroup).1, Product.isAvailableAt_iff.1 available⟩

theorem offers_of_product? {id : String} (found : catalog.product? id = some product)
    (available : product.isAvailableAt location = true) : catalog.Offers location product :=
  ⟨List.mem_of_find?_eq_some found, Product.isAvailableAt_iff.1 available⟩

theorem mem_of_bestOf {products : List Product} {tiers : List String}
    (chosen : bestOf products tiers = some product) : product ∈ products := by
  obtain ⟨_, _, found⟩ := bestOf_some chosen
  exact List.mem_of_find?_eq_some found

theorem selectByQuality_offers {group : String} {tiers : List String}
    (chosen : catalog.selectByQuality group tiers location = some product) :
    catalog.Offers location product :=
  offers_of_inGroup (mem_of_bestOf chosen)

theorem availableProduct?_offers {id : String}
    (found : catalog.availableProduct? id location = some product) :
    catalog.Offers location product := by
  obtain ⟨first, available⟩ := Option.filter_eq_some_iff.1 found
  exact offers_of_product? first available

/-- The product for a rule is offered, whether the rule names it or it is chosen by its quality. -/
theorem select_offers {rule : Rule} {demand : Demand}
    (chosen : catalog.select rule demand = some product) :
    catalog.Offers demand.location product := by
  unfold select at chosen
  simp only [← Option.or_eq_orElse, Option.or_eq_some_iff, Option.bind_eq_some_iff] at chosen
  rcases chosen with ⟨_, _, bucket⟩ | ⟨_, ⟨_, _, fixed⟩ | ⟨_, best⟩⟩
  · exact availableProduct?_offers bucket
  · exact availableProduct?_offers fixed
  · exact selectByQuality_offers best

end Catalog

namespace Enclosure

variable {catalog : Catalog} {preference : Preference} {tier : Int} {quality : Option String}
  {product : Product}

theorem productFor_some_iff :
    productFor catalog preference tier quality = some product ↔
      Catalog.bestOf (ofTier catalog preference.location tier)
          (Quality.chain [quality, preference.globalQuality]) = some product ∨
        Catalog.bestOf (ofTier catalog preference.location tier)
          (Quality.chain [quality, preference.globalQuality]) = none ∧
        (ofTier catalog preference.location tier).head? = some product := by
  unfold productFor
  dsimp only
  rw [← Option.or_eq_orElse, Option.or_eq_some_iff]

theorem productFor_mem (chosen : productFor catalog preference tier quality = some product) :
    product ∈ ofTier catalog preference.location tier := by
  rcases productFor_some_iff.1 chosen with best | ⟨_, first⟩
  · exact Catalog.mem_of_bestOf best
  · exact List.mem_of_head? first

/-- The enclosure for a tier is offered. -/
theorem productFor_offers (chosen : productFor catalog preference tier quality = some product) :
    catalog.Offers preference.location product :=
  Catalog.offers_of_inGroup (List.mem_filter.1 (productFor_mem chosen)).1

end Enclosure

/-- A product that can stand in for that of a row is offered. -/
theorem Overlay.isAlternative_offers {catalog : Catalog} {location : Option String} {id : String}
    {item : LineItem} {product : Product} (found : catalog.product? id = some product)
    (standsIn : isAlternative location item product = true) : catalog.Offers location product := by
  unfold isAlternative at standsIn
  rw [Bool.and_eq_true] at standsIn
  exact Catalog.offers_of_product? found standsIn.2

end WiringQuote
