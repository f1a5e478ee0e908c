import WiringQuote.Proofs.Session.Unrevised

/-!
# Without removals, swaps and set quantities

Rows are told apart by their ids while they are made, and by their selected package and product when
they are revised. A row as it is made is named after both, so rows with different ids do not meet: where
nothing is removed, swapped or counted, every row goes through in its place.

* `pairs_nodup_of_native`: rows as they are made have distinct pairs of package and product.
* `revise_eq_self`: rows that are left alone one by one are left alone together.
* `resolve_figuresOnly`: a configuration is resolved as without a revision.
* `display_figuresOnly`: a session shows these rows with the figures that were set for them.
-/

namespace WiringQuote

open Fallible LineItem

/-- Rows with distinct ids, each named after its pair, have distinct pairs. -/
theorem LineItem.pairs_nodup_of_native {items : List LineItem} (ids : (items.map (·.id)).Nodup)
    (native : ∀ item ∈ items, item.Native) : (items.map pair).Nodup := by
  refine List.Nodup.map_on (fun x inX y inY same => ?_) ids.of_map
  obtain ⟨package, product⟩ := Prod.mk.inj same
  refine List.inj_on_of_nodup_map ids inX inY ?_
  calc x.id = lineItemId x.instanceId x.productId := native x inX
    _ = lineItemId y.instanceId y.productId := by rw [package, product]
    _ = y.id := (native y inY).symm

namespace Overlay

variable {overlay : Overlay} {catalog : Catalog} {location : Option String}

/-! ## Rows that are left alone -/

/-- A row whose pair is new goes to the end. -/
theorem addRow_of_new {rows : Rows} {item : LineItem} (new : item.pair ∉ rows.keys) :
    addRow rows item = .ok (rows.insert item.pair item) := by
  have unknown : rows.get? (item.instanceId, item.productId) = none :=
    OrderedMap.get?_eq_none_iff.2 new
  unfold addRow
  dsimp only
  rw [unknown]
  rfl

/-- Rows with new and distinct pairs, each of which is left alone, go to the end in their order. -/
theorem foldlM_reviseRow_of_new {items : List LineItem} {rows : Rows}
    (new : (rows.keys ++ items.map pair).Nodup)
    (same : ∀ item ∈ items, overlay.reviseRow catalog location item = .ok item) :
    ∃ table : Rows, table.values = rows.values ++ items ∧
      items.foldlM (fun rows item => do
        addRow rows (← overlay.reviseRow catalog location item)) rows = .ok table := by
  induction items generalizing rows with
  | nil => exact ⟨rows, (List.append_nil _).symm, rfl⟩
  | cons item rest ih =>
    rw [List.map_cons] at new
    have absent : item.pair ∉ rows.keys := fun present =>
      (List.nodup_append.1 new).2.2 _ present _ List.mem_cons_self rfl
    have entries := OrderedMap.entries_insert absent item
    have keys : (rows.insert item.pair item).keys = rows.keys ++ [item.pair] := by
      unfold OrderedMap.keys
      rw [entries, List.map_append, List.map_singleton]
    have values : (rows.insert item.pair item).values = rows.values ++ [item] := by
      unfold OrderedMap.values
      rw [entries, List.map_append, List.map_singleton]
    have fresh : ((rows.insert item.pair item).keys ++ rest.map pair).Nodup := by
      rw [keys, List.append_assoc]
      exact new
    obtain ⟨table, all, run⟩ := ih fresh fun other inRest =>
      same other (List.mem_cons_of_mem _ inRest)
    refine ⟨table, by rw [all, values, List.append_assoc, List.singleton_append], ?_⟩
    rw [List.foldlM_cons, same item List.mem_cons_self]
    exact bind_ok_iff.2 ⟨_, addRow_of_new absent, run⟩

/-- Rows of distinct pairs that are left alone one by one are left alone together. -/
theorem revise_eq_self {items : List LineItem} (distinct : (items.map pair).Nodup)
    (stays : ∀ item ∈ items, item.id ∉ overlay.removed)
    (same : ∀ item ∈ items, overlay.reviseRow catalog location item = .ok item) :
    overlay.revise catalog location items = .ok items := by
  have all : items.filter (fun item => !overlay.removed.contains item.id) = items :=
    List.filter_eq_self.2 fun item listed => by simpa using stays item listed
  have new : ((OrderedMap.empty : Rows).keys ++ items.map pair).Nodup := distinct
  obtain ⟨table, values, run⟩ := foldlM_reviseRow_of_new new same
  unfold revise
  dsimp only
  rw [all]
  exact bind_ok_iff.2 ⟨table, run, congrArg Except.ok values⟩

/-! ## Overlays of figures alone -/

/-- The set prices, markups and hours, without removals, swaps and set quantities. -/
def figuresOnly (overlay : Overlay) : Overlay :=
  { overlay with quantities := .empty, swaps := .empty, removed := [] }

theorem reviseRow_figuresOnly (overlay : Overlay) (item : LineItem) :
    overlay.figuresOnly.reviseRow catalog location item = .ok item := rfl

/-- Rows as they are made are left as they are. -/
theorem revise_figuresOnly (overlay : Overlay) {items : List LineItem}
    (ids : (items.map (·.id)).Nodup) (native : ∀ item ∈ items, item.Native) :
    overlay.figuresOnly.revise catalog location items = .ok items :=
  revise_eq_self (pairs_nodup_of_native ids native) (fun _ _ => List.not_mem_nil)
    fun item _ => reviseRow_figuresOnly overlay item

/-! ## Whole configurations -/

/-- With nothing removed, swapped or counted, every configuration is resolved as without a revision: to
the same rows, protection rows, quantities and diagnostics in the same order, or with the same fault. -/
theorem resolve_figuresOnly (overlay : Overlay) (catalog : Catalog) (location : Option String)
    (configuration : Configuration) :
    Configuration.resolve catalog (overlay.figuresOnly.revise catalog location) configuration =
      Configuration.resolve catalog .none configuration := by
  unfold Configuration.resolve
  refine bind_congr fun quantities => bind_congr_ok fun built made => ?_
  have products : overlay.figuresOnly.revise catalog location built.rows.values =
      .ok built.rows.values :=
    revise_figuresOnly overlay (build_ids_nodup made) fun _ listed =>
      OrderedMap.Each.of_mem (build_native made) listed
  rw [products]
  refine bind_congr fun revised => bind_congr_ok fun derived made => ?_
  have devices : overlay.figuresOnly.revise catalog location derived.rows.values =
      .ok derived.rows.values :=
    revise_figuresOnly overlay (Protection.derive_ids_nodup made) fun _ listed =>
      OrderedMap.Each.of_mem (Protection.derive_native made) listed
  rw [devices]
  rfl

end Overlay

/-- A session without removals, swaps and set quantities shows the rows of its configuration, each with
the figures that were set for it. -/
theorem Store.display_figuresOnly (reference : Reference) (store : Store) :
    { store with overlay := store.overlay.figuresOnly }.display reference = (do
      let result ← Configuration.resolve reference.catalog .none (store.configuration reference)
      return {
        items := result.items.map store.overlay.valueRow
        protection := result.protection.map store.overlay.valueRow
        diagnostics := store.rateDiagnostics ++ result.diagnostics }) := by
  unfold Store.display
  exact congrArg (· >>= _) (Overlay.resolve_figuresOnly store.overlay reference.catalog _ _)

end WiringQuote
