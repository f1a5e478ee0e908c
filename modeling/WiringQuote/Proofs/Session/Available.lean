import WiringQuote.Proofs.Session.Fresh
import WiringQuote.Proofs.Session.Shown

/-!
# Every row is of a product on offer

A row gets its product when it is made for a rule or a device, when it is swapped, or when the enclosure is
sized. Each time the product is one that the catalog offers at the location of the session. A swap that was
set at another location is passed over where its product is not available.

* `rows_available`: every displayed row shows one product of the catalog that is available at the location
  of the session.
-/

namespace WiringQuote

open Fallible LineItem

namespace LineItem

/-- The row shows a product that the catalog offers at the location. -/
def Offered (catalog : Catalog) (location : Option String) (row : LineItem) : Prop :=
  ∃ product, catalog.Offers location product ∧ row.Shows product

theorem selected?_offers {catalog : Catalog} {preference : Preference} {resolved : ResolvedRule}
    {product : Product} (selected : selected? catalog preference resolved = some product) :
    catalog.Offers preference.location product := by
  unfold selected? at selected
  split at selected
  · exact Catalog.select_offers selected
  · cases selected

end LineItem

namespace Store

/-- A row stays with its product, or gets another one on offer. -/
theorem preserves_offered (reference : Reference) (store : Store) :
    store.Preserves reference
      (Offered reference.catalog (reference.locationName store.location)) where
  merge := by
    rintro target other row ⟨product, offers, shows⟩ _ merged
    exact ⟨product, offers, merge_shows merged shows⟩
  switch item product row _ offers switched := ⟨product, offers, withProduct_shows switched⟩
  quantity := by
    rintro item n row ⟨product, offers, shows⟩ _ counted
    exact ⟨product, offers, withQuantity_shows counted shows⟩
  value := by
    rintro item ⟨product, offers, shows⟩
    exact ⟨product, offers, { shows with }⟩

theorem makes_offered (reference : Reference) (store : Store) :
    store.Makes reference (Offered reference.catalog (reference.locationName store.location)) where
  rule := by
    intro resolution resolved product row _ _ selected made
    obtain ⟨_, _, shows, _⟩ := ofRule_ok made
    exact ⟨product, selected?_offers selected, shows⟩
  device := by
    intro items consumers devices device product row _ _ _ _ offers made
    exact ⟨product, offers, make_shows made⟩

end Store

namespace Session

variable {start s : Session}

/-- After settled writes every displayed row shows one product of the catalog, which is available
everywhere or at the location that the session is at. -/
theorem rows_available {source : Source} {asked : Value}
    (loaded : Session.load source asked = .ok start) (run : Run settled start s) {row : LineItem}
    (shown : row ∈ s.rows) : ∃ product ∈ s.catalog.products, row.Shows product ∧
      (product.availability = [] ∨
        ∃ name, s.locationName = some name ∧ name ∈ product.availability) := by
  obtain ⟨product, offers, shows⟩ := (s.store.preserves_offered s.reference).shown
    (s.store.makes_offered s.reference) (run_fresh loaded run) row shown
  exact ⟨product, offers.listed, shows, offers.available⟩

/-- A row is swapped to a product that only the first location has. -/
def swapped : List (String × Write) := [
  ("00000001", .selectPackage (.int 1)),
  ("", .setGlobal (.str "qualitaetsstufe") (.str "Standard")),
  ("", .swap (.str "1-00000001-STD") (.str "PRE"))]

/-- Afterwards the location changes. -/
def swappedAway : List (String × Write) := swapped ++ [("", .setLocation (.str "2"))]

theorem swappedAway_products : (Session.load twoLocations .null).toOption.map (fun start =>
    (start.settles swappedAway, (start.after swapped).rows.map (·.productId),
      (start.after swappedAway).rows.map (·.productId),
      (start.after swappedAway).store.overlay.swaps.get? "1-00000001-STD")) =
    some (true, ["PRE"], ["STD"], some "PRE") := by decide +kernel

/-- The swap is still set at the other location, where the row is of a product on offer there. -/
theorem swappedAway_available : ∃ start s row product,
    Session.load twoLocations .null = .ok start ∧ Run settled start s ∧ row ∈ s.rows ∧
    s.store.overlay.swaps.get? "1-00000001-STD" = some "PRE" ∧ product.id = "STD" ∧
    product ∈ s.catalog.products ∧ row.Shows product ∧
    (product.availability = [] ∨
      ∃ name, s.locationName = some name ∧ name ∈ product.availability) := by
  obtain ⟨start, loaded, facts⟩ := toOption_map_eq_some_iff.1 swappedAway_products
  obtain ⟨settles, facts⟩ := Prod.mk.inj facts
  obtain ⟨_, facts⟩ := Prod.mk.inj facts
  obtain ⟨products, kept⟩ := Prod.mk.inj facts
  have run : Run settled start (start.after swappedAway) :=
    run_of_settles (fun _ _ _ settled => settled) .refl settles
  obtain ⟨row, shown, own⟩ : ∃ row ∈ (start.after swappedAway).rows, row.productId = "STD" := by
    rw [← List.mem_map, products]
    exact List.mem_singleton_self _
  obtain ⟨product, listed, shows, available⟩ := rows_available loaded run shown
  exact ⟨start, _, row, product, loaded, run, shown, kept, shows.productId.symm.trans own, listed,
    shows, available⟩

end Session

end WiringQuote
