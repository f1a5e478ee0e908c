import WiringQuote.Proofs.Configuration
import WiringQuote.Session.Basic

/-!
# Revised rows

Removals, swaps and set quantities leave one row for each selected package and product:

* `swapRow_eq`: a row is switched to the product that stands in for its own, if there is one.
* `revise_pairs_nodup`: no two revised rows have one pair of selected package and product.
* `revise_ids_nodup`: revised rows keep distinct ids.
* `revise_origin`: each revised row has the id and the selected package of one of the rows before.
-/

namespace WiringQuote.Overlay

open Fallible LineItem

variable {overlay : Overlay} {catalog : Catalog} {location : Option String}

/-! ## One row -/

/-- The product that the row is swapped to, as long as that product can stand in. -/
def standIn? (overlay : Overlay) (catalog : Catalog) (location : Option String)
    (item : LineItem) : Option Product :=
  ((overlay.swaps.get? item.id).filter fun id => !id.isEmpty && id != item.productId).bind fun id =>
    (catalog.product? id).filter (isAlternative location item)

/-- A product that stands in is the one that is set, and can. -/
theorem standIn?_some {item : LineItem} {product : Product}
    (found : overlay.standIn? catalog location item = some product) :
    ∃ id, overlay.swaps.get? item.id = some id ∧ catalog.product? id = some product ∧
      isAlternative location item product = true := by
  unfold standIn? at found
  obtain ⟨id, set, known⟩ := Option.bind_eq_some_iff.1 found
  obtain ⟨known, standsIn⟩ := Option.filter_eq_some_iff.1 known
  exact ⟨id, (Option.filter_eq_some_iff.1 set).1, known, standsIn⟩

theorem swapRow_eq (item : LineItem) : overlay.swapRow catalog location item =
    (overlay.standIn? catalog location item).elim (.ok item) item.withProduct := by
  unfold swapRow standIn?
  split
  · rename_i none
    rw [none]
    rfl
  · rename_i id some
    rw [some]
    show _ = ((catalog.product? id).filter (isAlternative location item)).elim _ _
    split
    · rename_i none
      rw [none]
      rfl
    · rename_i product some
      rw [some]
      rfl

theorem swapRow_keeps {item row : LineItem}
    (swapped : overlay.swapRow catalog location item = .ok row) : Keeps item row := by
  rw [swapRow_eq] at swapped
  cases other : overlay.standIn? catalog location item with
  | none =>
    rw [other] at swapped
    cases swapped
    exact .refl item
  | some product =>
    rw [other] at swapped
    exact (withProduct_keeps swapped).1

theorem reviseRow_keeps {item row : LineItem}
    (revised : overlay.reviseRow catalog location item = .ok row) : Keeps item row := by
  unfold reviseRow at revised
  obtain ⟨swapped, first, second⟩ := bind_ok_iff.1 revised
  have kept := swapRow_keeps first
  split at second
  · exact kept.trans (withQuantity_keeps second).1
  · cases second
    exact kept

/-! ## All rows -/

/-- Rows made from the ones that are `done`: each under its own pair, from one of those, and told
apart by their ids. -/
structure Placed (done : List LineItem) (rows : Rows) : Prop where
  keyed : rows.KeyedBy pair
  origin : ∀ key row, rows.get? key = some row → ∃ item ∈ done, Keeps item row
  apart : ∀ k a l b, rows.get? k = some a → rows.get? l = some b → a.id = b.id → k = l

theorem placed_empty : Placed [] .empty := by
  have nothing : ∀ key row, (OrderedMap.empty : Rows).get? key = some row → False := by
    intro key row found
    rw [OrderedMap.get?_empty] at found
    cases found
  exact ⟨OrderedMap.keyedBy_empty _, fun key row found => (nothing key row found).elim,
    fun k a _ _ found => (nothing k a found).elim⟩

theorem Placed.insert {done more : List LineItem} {rows : Rows} {item row : LineItem}
    (placed : Placed done rows) (known : done ⊆ more) (inMore : item ∈ more)
    (kept : Keeps item row)
    (own : ∀ k a, rows.get? k = some a → a.id = row.id → k = pair row) :
    Placed more (rows.insert (pair row) row) := by
  refine ⟨placed.keyed.insert rfl, fun key other found => ?_, fun k a l b foundA foundB same => ?_⟩
  · rw [OrderedMap.get?_insert] at found
    split at found
    · cases found
      exact ⟨item, inMore, kept⟩
    · obtain ⟨source, inDone, keptSource⟩ := placed.origin key other found
      exact ⟨source, known inDone, keptSource⟩
  · rw [OrderedMap.get?_insert] at foundA foundB
    split at foundA <;> split at foundB
    · rename_i first second
      exact first.symm.trans second
    · rename_i first _
      cases foundA
      exact first.symm.trans (own l b foundB same.symm).symm
    · rename_i _ second
      cases foundB
      exact (own k a foundA same).trans second
    · exact placed.apart k a l b foundA foundB same

/-- A row that is new by its id takes its place. -/
theorem Placed.addRow {done : List LineItem} {rows next : Rows} {item row : LineItem}
    (placed : Placed done rows) (fresh : item.id ∉ done.map (·.id)) (kept : Keeps item row)
    (added : addRow rows row = .ok next) : Placed (done ++ [item]) next := by
  have known : done ⊆ done ++ [item] := List.subset_append_left ..
  have inMore : item ∈ done ++ [item] := List.mem_append_right _ List.mem_cons_self
  have unused : ∀ k a, rows.get? k = some a → a.id ≠ item.id := by
    intro k a found same
    obtain ⟨source, inDone, keptSource⟩ := placed.origin k a found
    exact fresh (List.mem_map.2 ⟨source, inDone, keptSource.id.symm.trans same⟩)
  unfold Overlay.addRow at added
  cases found : rows.get? (row.instanceId, row.productId) with
  | none =>
    simp only [found] at added
    cases added
    exact placed.insert known inMore kept fun k a foundA same =>
      absurd (same.trans kept.id) (unused k a foundA)
  | some existing =>
    simp only [found] at added
    have samePair : pair existing = (row.instanceId, row.productId) := placed.keyed _ _ found
    split at added
    · -- The new row has the product from the start: it brings its own id, which is not yet used.
      obtain ⟨merged, absorbed, same⟩ := bind_ok_iff.1 added
      cases same
      obtain ⟨keptRow, product⟩ := merge_keeps absorbed
      have pairMerged : pair merged = (row.instanceId, row.productId) :=
        Prod.ext keptRow.instanceId product
      rw [← pairMerged]
      exact placed.insert known inMore (kept.trans keptRow) fun k a foundA same =>
        absurd (same.trans (kept.trans keptRow).id) (unused k a foundA)
    · -- The present row stays in its place with its id.
      obtain ⟨merged, absorbed, same⟩ := bind_ok_iff.1 added
      cases same
      obtain ⟨keptRow, product⟩ := merge_keeps absorbed
      have pairMerged : pair merged = (row.instanceId, row.productId) :=
        (Prod.ext keptRow.instanceId product).trans samePair
      obtain ⟨source, inDone, keptSource⟩ := placed.origin _ _ found
      rw [← pairMerged]
      refine placed.insert known (known inDone) (keptSource.trans keptRow) fun k a foundA same => ?_
      exact (placed.apart k a _ existing foundA found (same.trans keptRow.id)).trans pairMerged.symm

/-- Rows with distinct ids take their places one after the other. -/
theorem placed_foldlM {items : List LineItem} {final : Rows} (distinct : (items.map (·.id)).Nodup)
    (run : items.foldlM (fun rows item => do
      Overlay.addRow rows (← overlay.reviseRow catalog location item)) .empty = .ok final) :
    Placed items final := by
  refine foldlM_prefix run placed_empty fun done item rows next begins placed step => ?_
  obtain ⟨row, revised, added⟩ := bind_ok_iff.1 step
  have apart := distinct.sublist (begins.sublist.map (·.id))
  rw [List.map_append, List.map_singleton] at apart
  have fresh : item.id ∉ done.map (·.id) := fun present =>
    (List.nodup_append.1 apart).2.2 _ present _ List.mem_cons_self rfl
  exact placed.addRow fresh (reviseRow_keeps revised) added

/-! ## What comes out -/

section Results

variable {items rows : List LineItem} (distinct : (items.map (·.id)).Nodup)
  (revised : overlay.revise catalog location items = .ok rows)

include distinct revised

theorem revise_placed : ∃ table : Rows, rows = table.values ∧
    Placed (items.filter fun item => !overlay.removed.contains item.id) table := by
  unfold revise at revised
  obtain ⟨table, run, same⟩ := bind_ok_iff.1 revised
  cases same
  have kept : ((items.filter fun item => !overlay.removed.contains item.id).map (·.id)).Nodup :=
    distinct.sublist (List.filter_sublist.map _)
  exact ⟨table, rfl, placed_foldlM kept run⟩

/-- No two revised rows have one pair of selected package and product. -/
theorem revise_pairs_nodup : (rows.map pair).Nodup := by
  obtain ⟨table, rfl, placed⟩ := revise_placed distinct revised
  exact placed.keyed.nodup

/-- Revised rows keep distinct ids. -/
theorem revise_ids_nodup : (rows.map (·.id)).Nodup := by
  obtain ⟨table, rfl, placed⟩ := revise_placed distinct revised
  exact OrderedMap.nodup_map_values placed.apart

/-- Each revised row has the id and the selected package of a row before that was not removed. -/
theorem revise_origin {row : LineItem} (present : row ∈ rows) :
    ∃ item ∈ items, item.id ∉ overlay.removed ∧ Keeps item row := by
  obtain ⟨table, rfl, placed⟩ := revise_placed distinct revised
  obtain ⟨key, found⟩ := OrderedMap.mem_values_iff.1 present
  obtain ⟨item, stayed, kept⟩ := placed.origin key row found
  obtain ⟨listed, notRemoved⟩ := List.mem_filter.1 stayed
  exact ⟨item, listed, by simpa using notRemoved, kept⟩

end Results

theorem revise_tidy (overlay : Overlay) (catalog : Catalog) (location : Option String) :
    (overlay.revise catalog location).Tidy where
  pairs _ _ distinct revised := revise_pairs_nodup distinct revised
  ids _ _ distinct revised := revise_ids_nodup distinct revised
  origin _ _ distinct revised _ present := by
    obtain ⟨item, listed, _, kept⟩ := revise_origin distinct revised present
    exact ⟨item, listed, kept⟩

end WiringQuote.Overlay
