import WiringQuote.Proofs.Catalog.Offered
import WiringQuote.Proofs.FixedPoint
import WiringQuote.Proofs.LineItem.Each
import WiringQuote.Proofs.Session.Pairs

/-!
# What every shown row has

A row is made for a rule or a device. From then on it may absorb other rows, be switched to a product on
offer, and get the quantity and the figures that are set for it. What it has when it is made and every one
of these keeps, it has when it is shown.

* `Preserves.revise`: removals, swaps and set quantities.
* `Preserves.items`, `Preserves.protection`: the stages of resolving a store.
* `Preserves.shown`: the rows of a display.
-/

namespace WiringQuote

open Fallible LineItem

namespace Store

/-- Whatever becomes of a row under the store, it keeps the property. -/
structure Preserves (reference : Reference) (store : Store) (p : LineItem → Prop) : Prop where
  merge : KeptByMerge p
  switch : ∀ item product row, p item →
    reference.catalog.Offers (reference.locationName store.location) product →
    item.withProduct product = .ok row → p row
  quantity : ∀ item n row, p item → store.overlay.quantities.get? item.id = some n →
    item.withQuantity (.int n) = .ok row → p row
  value : ∀ item, p item → p (store.overlay.valueRow item)

/-- Rows have the property when they are made: those of rules, and those of the devices that rows with
the property require. -/
structure Makes (reference : Reference) (store : Store) (p : LineItem → Prop) : Prop where
  rule : ∀ resolution resolved product row,
    Resolution.resolve reference.catalog store.instanceList store.globals = .ok resolution →
    resolved ∈ resolution.rules →
    selected? reference.catalog (store.configuration reference).preference resolved = some product →
    ofRule (reference.catalog.package? resolved.packageId) resolved product = .ok row → p row
  device : ∀ items consumers devices device product row, (∀ item ∈ items, p item) →
    Consumers.ofItems items = .ok consumers → Protection.required consumers = .ok devices →
    device ∈ devices →
    reference.catalog.Offers (reference.locationName store.location) product →
    make Protection.placement product device.2 (.float 1.0) none true = .ok row → p row

/-- What only depends on the id and the selected package of a row is kept. -/
theorem preserves_of_keeps {reference : Reference} {store : Store} {p : LineItem → Prop}
    (kept : ∀ before after, Keeps before after → p before → p after) :
    store.Preserves reference p where
  merge _ _ _ own _ merged := kept _ _ (merge_keeps merged).1 own
  switch _ _ _ own _ switched := kept _ _ (withProduct_keeps switched).1 own
  quantity _ _ _ own _ counted := kept _ _ (withQuantity_keeps counted).1 own
  value item own := kept item _ ⟨rfl, rfl⟩ own

section Stages

variable {reference : Reference} {store : Store} {p : LineItem → Prop}
  (preserves : store.Preserves reference p)

include preserves

/-! ## Revision -/

theorem Preserves.swapRow {item row : LineItem} (own : p item)
    (swapped : store.overlay.swapRow reference.catalog (reference.locationName store.location) item =
      .ok row) : p row := by
  rw [Overlay.swapRow_eq] at swapped
  cases found : store.overlay.standIn? reference.catalog (reference.locationName store.location)
    item with
  | none =>
    rw [found] at swapped
    cases swapped
    exact own
  | some product =>
    rw [found] at swapped
    obtain ⟨_, _, known, standsIn⟩ := Overlay.standIn?_some found
    exact preserves.switch _ _ _ own (Overlay.isAlternative_offers known standsIn) swapped

theorem Preserves.reviseRow {item row : LineItem} (own : p item)
    (revised : store.overlay.reviseRow reference.catalog (reference.locationName store.location)
      item = .ok row) : p row := by
  unfold Overlay.reviseRow at revised
  obtain ⟨swapped, first, second⟩ := bind_ok_iff.1 revised
  have kept := preserves.swapRow own first
  split at second
  · rename_i n found
    exact preserves.quantity _ _ _ kept found second
  · cases second
    exact kept

theorem Preserves.addRow {rows next : Overlay.Rows} {item : LineItem}
    (each : rows.Each fun _ row => p row) (own : p item)
    (added : Overlay.addRow rows item = .ok next) : next.Each fun _ row => p row := by
  unfold Overlay.addRow at added
  dsimp only at added
  split at added
  · cases added
    exact each.insert own
  · rename_i existing found
    have present := each _ _ found
    split at added <;> obtain ⟨merged, absorbed, same⟩ := bind_ok_iff.1 added <;> cases same
    · exact each.insert (preserves.merge _ _ _ own present absorbed)
    · exact each.insert (preserves.merge _ _ _ present own absorbed)

/-- Removals, swaps and set quantities keep the property for all rows. -/
theorem Preserves.revise {items rows : List LineItem} (each : ∀ item ∈ items, p item)
    (revised : store.overlay.revise reference.catalog (reference.locationName store.location) items =
      .ok rows) : ∀ row ∈ rows, p row := by
  unfold Overlay.revise at revised
  obtain ⟨table, run, same⟩ := bind_ok_iff.1 revised
  cases same
  have kept : table.Each fun _ row => p row := by
    refine foldlM_induction run (OrderedMap.each_empty _) fun item listed before next placed step => ?_
    obtain ⟨row, revisedRow, added⟩ := bind_ok_iff.1 step
    have own := each item (List.mem_filter.1 listed).1
    exact preserves.addRow placed (preserves.reviseRow own revisedRow) added
  exact fun row present => kept.of_mem present

/-! ## Stages -/

variable {stages : Configuration.Stages}
  (of : stages.Of reference.catalog
    (store.overlay.revise reference.catalog (store.configuration reference).location)
    (store.configuration reference))

include of

theorem Preserves.revised (built : stages.built.Each p) : ∀ row ∈ stages.revised, p row :=
  preserves.revise (fun _ present => OrderedMap.Each.of_mem built present) of.revised

/-- The enclosure that takes the place of another is on offer. -/
theorem Preserves.items (built : stages.built.Each p) : ∀ row ∈ stages.items, p row := by
  have revised := preserves.revised of built
  intro row listed
  unfold Configuration.Stages.items at listed
  split at listed
  · exact revised row listed
  · rename_i copy copied
    obtain ⟨_, _, current, _, product, _, _, first, _, chosen, switched⟩ :=
      Enclosure.resized_some (copied ▸ of.sized)
    have own := revised current (List.mem_of_find?_eq_some first)
    obtain ⟨item, present, placed⟩ := List.mem_map.1 listed
    split at placed
    · subst placed
      exact preserves.switch _ _ _ own (Enclosure.productFor_offers chosen) switched
    · exact placed ▸ revised item present

theorem Preserves.protection (derived : stages.derived.Each p) : ∀ row ∈ stages.protection, p row :=
  preserves.revise (fun _ present => OrderedMap.Each.of_mem derived present) of.protection

end Stages

/-! ## Displays -/

section Displays

variable {reference : Reference} {store : Store} {p : LineItem → Prop}

theorem Makes.built {stages : Configuration.Stages} (makes : store.Makes reference p)
    (preserves : store.Preserves reference p)
    (of : stages.Of reference.catalog
      (store.overlay.revise reference.catalog (store.configuration reference).location)
      (store.configuration reference)) : stages.built.Each p :=
  build_each preserves.merge
    (fun resolved listed product row selected made =>
      makes.rule _ resolved product row of.quantities listed selected made) of.built

theorem Makes.derived {stages : Configuration.Stages} (makes : store.Makes reference p)
    (preserves : store.Preserves reference p)
    (of : stages.Of reference.catalog
      (store.overlay.revise reference.catalog (store.configuration reference).location)
      (store.configuration reference)) : stages.derived.Each p := by
  have revised := preserves.revised of (makes.built preserves of)
  refine Protection.derive_each preserves.merge ?_ of.derived
  intro consumers devices counted required device listed product row chosen made
  exact makes.device _ consumers devices device product row revised counted required listed
    (Catalog.selectByQuality_offers chosen) made

/-- Every row of a display has what rows have when they are made and keep under the store. -/
theorem Preserves.shown {display : Display} (preserves : store.Preserves reference p)
    (makes : store.Makes reference p) (shows : store.display reference = .ok display) :
    ∀ row ∈ display.items ++ display.protection, p row := by
  obtain ⟨stages, of, rfl⟩ := display_ok_iff.1 shows
  have built := makes.built preserves of
  have derived := makes.derived preserves of
  intro row listed
  rcases List.mem_append.1 listed with product | device
  · obtain ⟨item, present, rfl⟩ := List.mem_map.1 product
    exact preserves.value item (preserves.items of built item present)
  · obtain ⟨item, present, rfl⟩ := List.mem_map.1 device
    exact preserves.value item (preserves.protection of derived item present)

end Displays

end Store

end WiringQuote
