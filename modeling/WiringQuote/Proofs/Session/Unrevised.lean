import WiringQuote.Proofs.Session.Identified
import WiringQuote.Proofs.Session.Merging
import WiringQuote.Proofs.Session.Quantities

/-!
# Rows before they are revised

What a user sets is applied to rows as rules and devices make them, and only then are rows of one product
merged. So what becomes of a displayed row is told from these rows.

* `build_native`, `derive_native`: each is named after its package and its product.
* `Store.unrevised`: the rows of a store as they are made.
* `Stages.Of.built_asMade`, `Stages.Of.derived_asMade`: they have ids of their own and whole units.
* `Overlay.Alone`: a row that is merged with no other.
-/

namespace WiringQuote

open Decimal Fallible LineItem

/-! ## Rows as they are made -/

/-- Rows as they are made: told apart by their ids, each of its own package and product, of whole
units. -/
structure LineItem.AsMade (items : List LineItem) : Prop where
  ids : (items.map (·.id)).Nodup
  native : ∀ item ∈ items, item.Native
  filled : ∀ item ∈ items, item.Filled

theorem LineItem.Filled.integral {item : LineItem} (filled : item.Filled) : item.Integral := by
  obtain ⟨_, _, quantity⟩ := filled
  exact integral_of_quantity quantity

theorem LineItem.AsMade.integral {items : List LineItem} (asMade : AsMade items) :
    ∀ item ∈ items, item.Integral := fun item listed => (asMade.filled item listed).integral

theorem LineItem.keptByMerge_native : KeptByMerge Native := by
  intro target other row native _ merged
  obtain ⟨kept, product⟩ := merge_keeps merged
  unfold Native
  rw [kept.id, kept.instanceId, product]
  exact native

/-- Rows of rules are native. -/
theorem LineItem.build_native {catalog : Catalog} {preference : Preference}
    {resolution : Resolution} {sheet : Sheet}
    (built : build catalog preference resolution = .ok sheet) : sheet.Each Native :=
  build_each keptByMerge_native (fun _ _ _ _ _ made => by
    obtain ⟨named, placed, shows, _⟩ := ofRule_ok made
    unfold Native
    rw [named, placed, shows.productId]) built

/-- Protection rows are native. -/
theorem Protection.derive_native {catalog : Catalog} {preference : Preference}
    {items : List LineItem} {sheet : Sheet}
    (derived : derive catalog preference items = .ok sheet) : sheet.Each Native :=
  derive_each keptByMerge_native (fun _ _ _ _ _ _ _ _ _ made => by
    obtain ⟨_, _, _, rfl⟩ := make_ok made
    rfl) derived

namespace Store

/-- The rows of a store before removals, swaps and set quantities: those of rules, and the devices that
the revised rows require. -/
structure Unrevised where
  products : List LineItem
  devices : List LineItem

/-- The rows of a store before they are revised. -/
def unrevised (reference : Reference) (store : Store) : Except Fault Unrevised := do
  let configuration := store.configuration reference
  let quantities ← Resolution.resolve reference.catalog configuration.instances configuration.globals
  let built ← LineItem.build reference.catalog configuration.preference quantities
  let revised ← store.overlay.revise reference.catalog configuration.location built.rows.values
  let derived ← Protection.derive reference.catalog configuration.preference revised
  return ⟨built.rows.values, derived.rows.values⟩

section Stages

variable {reference : Reference} {store : Store} {stages : Configuration.Stages}
  (of : stages.Of reference.catalog
    (store.overlay.revise reference.catalog (store.configuration reference).location)
    (store.configuration reference))

include of

theorem unrevised_eq : store.unrevised reference =
    .ok ⟨stages.built.rows.values, stages.derived.rows.values⟩ := by
  unfold unrevised
  simp only [bind_ok_iff, pure_ok_iff]
  exact ⟨_, of.quantities, _, of.built, _, of.revised, _, of.derived, rfl⟩

theorem built_asMade (canonical : store.Canonical reference) : AsMade stages.built.rows.values where
  ids := build_ids_nodup of.built
  native _ listed := OrderedMap.Each.of_mem (build_native of.built) listed
  filled _ listed := OrderedMap.Each.of_mem
    ((makes_filled reference store).built (preserves_filled canonical) of) listed

theorem derived_asMade (canonical : store.Canonical reference) :
    AsMade stages.derived.rows.values where
  ids := Protection.derive_ids_nodup of.derived
  native _ listed := OrderedMap.Each.of_mem (Protection.derive_native of.derived) listed
  filled _ listed := OrderedMap.Each.of_mem
    ((makes_filled reference store).derived (preserves_filled canonical) of) listed

end Stages

end Store

/-! ## Rows that are merged with no other -/

namespace Overlay

variable {overlay : Overlay} {catalog : Catalog} {location : Option String}

/-- Among the rows that are not removed there is one with the id, and none with another id shows its
pair of selected package and product. -/
def Alone (overlay : Overlay) (catalog : Catalog) (location : Option String) (items : List LineItem)
    (id : String) : Prop :=
  ∃ item ∈ overlay.kept items, item.id = id ∧ ∀ other ∈ overlay.kept items, other.id ≠ id →
    overlay.shown catalog location other ≠ overlay.shown catalog location item

instance (overlay : Overlay) (catalog : Catalog) (location : Option String) (items : List LineItem)
    (id : String) : Decidable (overlay.Alone catalog location items id) :=
  inferInstanceAs (Decidable (∃ item ∈ overlay.kept items, item.id = id ∧
    ∀ other ∈ overlay.kept items, other.id ≠ id →
      overlay.shown catalog location other ≠ overlay.shown catalog location item))

theorem kept_ids_nodup {items : List LineItem} (ids : (items.map (·.id)).Nodup) :
    ((overlay.kept items).map (·.id)).Nodup :=
  ids.sublist (List.filter_sublist.map _)

/-- A row that is alone is the only one that shows its pair. -/
theorem filter_eq_singleton {items : List LineItem} (ids : (items.map (·.id)).Nodup)
    {item : LineItem} (listed : item ∈ overlay.kept items)
    (apart : ∀ other ∈ overlay.kept items, other.id ≠ item.id →
      overlay.shown catalog location other ≠ overlay.shown catalog location item) :
    (overlay.kept items).filter (fun other =>
      overlay.shown catalog location other = overlay.shown catalog location item) = [item] := by
  have distinct : ((overlay.kept items).map (·.id)).Nodup := kept_ids_nodup ids
  by_contra more
  rcases (((distinct.of_map).filter _).ne_singleton_iff item).1 more with none | ⟨other, shows, differs⟩
  · have own : item ∈ (overlay.kept items).filter (fun other =>
        overlay.shown catalog location other = overlay.shown catalog location item) :=
      List.mem_filter.2 ⟨listed, decide_eq_true rfl⟩
    rw [none] at own
    cases own
  · obtain ⟨present, same⟩ := List.mem_filter.1 shows
    refine apart other present (fun sameId => differs ?_) (of_decide_eq_true same)
    exact List.inj_on_of_nodup_map distinct present listed sameId

end Overlay

end WiringQuote
