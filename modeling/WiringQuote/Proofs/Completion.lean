import WiringQuote.Proofs.Configuration
import WiringQuote.Proofs.Protection.Units
import WiringQuote.Proofs.Session.Cleaned
import WiringQuote.Proofs.Session.Revision

/-!
# When a configuration can be resolved

Parameter values are accepted one by one, but rules multiply and add them, and rows add up what the rules
ask for. Resolving completes unless such a result leaves the range of binary64.

* `revise_total`: the removals, swaps and set quantities of a user.
* `resolve_completes`: quantities are always found; rows are found exactly where the quantities of the
  rules that make them are finite, as long as the units of all rows stay below `unitLimit`.
* `vastRoom_fails`: values that are all accepted, and a rule whose quantity is not finite.
-/

namespace WiringQuote

open Decimal Fallible LineItem

/-! ## Removals, swaps and set quantities -/

namespace Overlay

variable (overlay : Overlay) (catalog : Catalog) (location : Option String) {item : LineItem}
  {items : List LineItem} {n : Nat}

/-- The units that are set for a row; none if its quantity is not set. -/
def setUnits (id : String) : Nat := overlay.quantities.numberAt Int.toNat id

/-- The units that are set for all rows. -/
def allSetUnits : Nat := overlay.quantities.sum Int.toNat

theorem swapRow_total (whole : item.Whole) (small : item.units < 8 * unitLimit) :
    ∃ row, overlay.swapRow catalog location item = .ok row ∧ row.Whole ∧
      row.units = item.units := by
  rw [swapRow_eq]
  cases overlay.standIn? catalog location item with
  | none => exact ⟨item, rfl, whole, rfl⟩
  | some product => exact withProduct_total whole small product

theorem reviseRow_total (counts : overlay.quantities.Each fun _ q => 0 ≤ q) (whole : item.Whole)
    (small : item.units + overlay.setUnits item.id < 8 * unitLimit) :
    ∃ row, overlay.reviseRow catalog location item = .ok row ∧ row.Whole ∧
      row.units ≤ item.units + overlay.setUnits item.id := by
  obtain ⟨swapped, done, swappedWhole, same⟩ := swapRow_total overlay catalog location whole
    (by omega)
  have own : swapped.id = item.id := (swapRow_keeps done).id
  cases found : overlay.quantities.get? item.id with
  | none =>
    refine ⟨swapped, bind_ok_iff.2 ⟨swapped, done, ?_⟩, swappedWhole, by omega⟩
    rw [own, found]
    rfl
  | some q =>
    have set : overlay.setUnits item.id = q.toNat := by
      rw [setUnits, OrderedMap.numberAt, found]
      rfl
    have count : (q.toNat : Int) = q := Int.toNat_of_nonneg (counts item.id q found)
    obtain ⟨row, counted, rowWhole, holds⟩ := withQuantity_total (n := q.toNat) swappedWhole (by omega)
    rw [count] at counted
    refine ⟨row, bind_ok_iff.2 ⟨swapped, done, ?_⟩, rowWhole, by omega⟩
    rw [own, found]
    exact counted

theorem addRow_total {rows : Rows} (within : Within rows.values n) (whole : item.Whole)
    (small : n + item.units < 8 * unitLimit) :
    ∃ next, addRow rows item = .ok next ∧ Within next.values (n + item.units) := by
  have absorbs : ∀ existing : LineItem, existing.Whole → existing.units ≤ n →
      ∃ row, (if item.id = lineItemId item.instanceId item.productId then item.merge existing
        else existing.merge item) = .ok row ∧ row.Whole ∧
          row.units = existing.units + item.units := by
    intro existing own most
    split
    · rw [Nat.add_comm]
      exact merge_total whole own (by omega)
    · exact merge_total own whole (by omega)
  unfold addRow
  dsimp only
  rcases within.put_total whole absorbs with ⟨free, holds⟩ | ⟨existing, row, found, merged, holds⟩
  · rw [free]
    exact ⟨_, rfl, holds⟩
  · rw [found]
    refine ⟨rows.insert (item.instanceId, item.productId) row, ?_, holds⟩
    dsimp only
    split at merged
    · rename_i first
      rw [if_pos first]
      exact bind_ok_iff.2 ⟨row, merged, rfl⟩
    · rename_i other
      rw [if_neg other]
      exact bind_ok_iff.2 ⟨row, merged, rfl⟩

/-- The units of rows with distinct ids, and those that are set for them. -/
theorem sum_units_le (ids : (items.map (·.id)).Nodup) (within : Within items n) :
    (items.map fun item => item.units + overlay.setUnits item.id).sum ≤
      n + overlay.allSetUnits := by
  have set : ((items.map (·.id)).map overlay.setUnits).sum ≤ overlay.allSetUnits :=
    OrderedMap.sum_numberAt_le ids overlay.quantities Int.toNat
  rw [List.map_map] at set
  rw [List.sum_map_add]
  exact Nat.add_le_add within.units set

/-- Whole rows are revised to whole rows. -/
theorem revise_total (counts : overlay.quantities.Each fun _ q => 0 ≤ q)
    (ids : (items.map (·.id)).Nodup) (within : Within items n)
    (small : n + overlay.allSetUnits < 8 * unitLimit) :
    ∃ rows, overlay.revise catalog location items = .ok rows ∧
      Within rows (n + overlay.allSetUnits) := by
  have start : Within (OrderedMap.empty : Rows).values 0 := within_empty
  have some := List.filter_sublist (l := items) (p := fun item => !overlay.removed.contains item.id)
  have kept := within.sublist some
  have most := overlay.sum_units_le (ids.sublist (some.map _)) kept
  obtain ⟨rows, run, holds⟩ := foldlM_within (p := fun rows k => Within (OrderedMap.values rows) k)
    start (Nat.lt_of_le_of_lt most small) fun item present rows k held less => by
      obtain ⟨row, revised, whole, fewer⟩ := reviseRow_total overlay catalog location counts
        (kept.whole item present) (by omega)
      obtain ⟨next, added, after⟩ := addRow_total held whole (by omega)
      exact ⟨next, bind_ok_iff.2 ⟨row, revised, added⟩, after.mono (by omega)⟩
  exact ⟨rows.values, bind_ok_iff.2 ⟨rows, run, rfl⟩, holds.mono most⟩

end Overlay

/-! ## Configurations -/

namespace Configuration

variable {catalog : Catalog} {overlay : Overlay} {configuration : Configuration}

theorem resolve_total {resolution : Resolution}
    (found : Resolution.resolve catalog configuration.instances configuration.globals =
      .ok resolution)
    (inRange : ∀ resolved ∈ resolution.rules, resolved.env.InRange)
    (counts : overlay.quantities.Each fun _ q => 0 ≤ q)
    (finite : ∀ resolved ∈ resolution.rules,
      (selected? catalog configuration.preference resolved).isSome = true →
        resolved.quantity.isFinite = true)
    (small : demand catalog configuration.preference resolution + overlay.allSetUnits < unitLimit)
    (location : Option String) :
    ∃ result, resolve catalog (overlay.revise catalog location) configuration = .ok result := by
  have := unitLimit_pos
  obtain ⟨built, done, within⟩ := build_total inRange finite (by omega)
  obtain ⟨revised, items, rows⟩ := overlay.revise_total catalog location counts
    (build_ids_nodup done) within (by omega)
  obtain ⟨derived, devices, whole⟩ := Protection.derive_total rows (by omega) catalog
    configuration.preference
  obtain ⟨protection, kept, last⟩ := overlay.revise_total catalog location counts
    (Protection.derive_ids_nodup devices) whole (by omega)
  obtain ⟨⟨copy, enclosure⟩, sized⟩ := Enclosure.resized_total rows last (by omega) (by omega)
    catalog configuration.preference
  exact ⟨_, resolve_ok_iff.2 ⟨⟨resolution, built, revised, derived, protection, copy, enclosure⟩,
    ⟨found, done, items, devices, kept, sized⟩, rfl⟩⟩

/-- Quantities are always found. Where the rows are found as well, the quantities of all rules that make
a row are finite; and where they are, the rows are found, as long as the units that the rules ask for and
that are set stay below the limit. -/
theorem resolve_completes
    (globals : configuration.globals.Each fun key value => Accepted (catalog.coerceGlobal key) value)
    (params : ∀ inst ∈ configuration.instances,
      inst.params.Each fun key value => Accepted (catalog.coerceLocal inst.packageId key) value)
    (quantities : overlay.quantities.Each fun _ q => Accepted Override.quantity q)
    (location : Option String) :
    ∃ resolution, Resolution.resolve catalog configuration.instances configuration.globals =
        .ok resolution ∧
      ((∃ result, resolve catalog (overlay.revise catalog location) configuration = .ok result) →
        ∀ resolved ∈ resolution.rules,
          (selected? catalog configuration.preference resolved).isSome = true →
            resolved.quantity.isFinite = true) ∧
      ((∀ resolved ∈ resolution.rules,
          (selected? catalog configuration.preference resolved).isSome = true →
            resolved.quantity.isFinite = true) →
        demand catalog configuration.preference resolution + overlay.allSetUnits < unitLimit →
        ∃ result, resolve catalog (overlay.revise catalog location) configuration = .ok result) := by
  obtain ⟨resolution, found, inRange⟩ := Resolution.resolve_total catalog
    (fun key value stored => Catalog.inRange_of_global (globals key value stored))
    fun inst listed key value stored => Catalog.inRange_of_local (params inst listed key value stored)
  refine ⟨resolution, found, ?_, fun finite small => ?_⟩
  · rintro ⟨result, resolved⟩ rule listed selected
    obtain ⟨stages, of, _⟩ := resolve_ok_iff.1 resolved
    have same : stages.quantities = resolution := Except.ok.inj (of.quantities.symm.trans found)
    exact isFinite_of_build of.built (same ▸ listed) selected
  · exact resolve_total found inRange
      (fun id q stored => Override.quantity_nonneg (quantities id q stored)) finite small location

/-! ## A room with cables by its area -/

/-- A package that needs ten cables for each square metre of a room. -/
def meteredRows : Catalog.Rows where
  packages := [.obj [("id", .int 1), ("name", .str "Room")]]
  items := [.obj [("id", .int 1), ("package_id", .int 1), ("produkt_gruppe_id", .str "GRP-CAB"),
    ("quantity_base", .int 2), ("multipliers_material", .obj [("area", .float 10.0)])]]
  products := [.obj [("product_id", .str "CAB"), ("name", .str "CAB"),
    ("produkt_gruppe", .str "GRP-CAB"), ("qualitaetsstufe", .str "Standard"),
    ("unit_price", .float 5.0)]]
  groups := []
  parameters := [.obj [("param_key", .str "area"), ("label", .str "Area"),
    ("param_type", .str "number")]]
  links := [.obj [("package_id", .int 1), ("param_key", .str "area")]]

def metered : Catalog where
  packages := .ofList [(1, ⟨1, "Room", none, none, none, false⟩)]
  rules := [⟨1, 1, "GRP-CAB", 2.0, [.product ["area"] 10.0], [], .empty⟩]
  products := [⟨"CAB", "CAB", "Stk", 5.0, some "GRP-CAB", some "Standard", .const 0.0, none, [], none⟩]
  groups := .empty
  parameters := .ofList [("area", ⟨"area", "Area", .number, none, none, false, none, none, []⟩)]
  links := [⟨1, "area"⟩]

theorem metered_read : Catalog.ofRows Json.usualDepth meteredRows = .ok metered := by rfl

/-- A room with a parameter value as its area. -/
def roomOf (area : Value) : Configuration :=
  ⟨[⟨"1-0", .int 1, .ofList [("area", area)]⟩], .empty, none⟩

/-- The fault of resolving a room with what is stored of a given area. -/
def faultOf (catalog : Catalog) (given : Value) : Option Fault :=
  match catalog.coerceLocal (.int 1) "area" given with
  | .error _ => none
  | .ok area =>
    match resolve catalog (Overlay.empty.revise catalog none) (roomOf area) with
    | .error fault => some fault
    | .ok _ => none

theorem metered_faultOf : faultOf metered (.float 1e308) = some .infinite := by decide +kernel

/-- An area that its parameter accepts, and a rule that multiplies it beyond the range of binary64. -/
theorem vastRoom_fails : ∃ catalog area, Catalog.ofRows Json.usualDepth meteredRows = .ok catalog ∧
    catalog.coerceLocal (.int 1) "area" (.float 1e308) = .ok area ∧
    resolve catalog (Overlay.empty.revise catalog none) (roomOf area) = .error .infinite := by
  have fails := metered_faultOf
  unfold faultOf at fails
  split at fails
  · cases fails
  · rename_i area accepted
    split at fails
    · rename_i fault failed
      cases fails
      exact ⟨metered, area, metered_read, accepted, failed⟩
    · cases fails

/-- Five cables, whatever the area. -/
def fiveCables : Overlay := { Overlay.empty with quantities := .ofList [("1-0-CAB", 5)] }

theorem smallRoom_modest :
    (Resolution.resolve metered (roomOf (.int 3)).instances .empty).toOption.map (fun resolution =>
      (resolution.rules.all (·.quantity.isFinite),
        decide (demand metered (roomOf (.int 3)).preference resolution + fiveCables.allSetUnits <
          unitLimit))) = some (true, true) := by decide +kernel

/-- Within the range the room is resolved. -/
theorem smallRoom_completes :
    (roomOf (.int 3)).globals.Each
      (fun key value => Accepted (metered.coerceGlobal key) value) ∧
    (∀ inst ∈ (roomOf (.int 3)).instances,
      inst.params.Each fun key value => Accepted (metered.coerceLocal inst.packageId key) value) ∧
    fiveCables.quantities.Each (fun _ q => Accepted Override.quantity q) ∧
    ∃ resolution, Resolution.resolve metered (roomOf (.int 3)).instances (roomOf (.int 3)).globals =
        .ok resolution ∧
      (∀ resolved ∈ resolution.rules, resolved.quantity.isFinite = true) ∧
      ∃ result, resolve metered (fiveCables.revise metered none) (roomOf (.int 3)) = .ok result := by
  have globals : (roomOf (.int 3)).globals.Each
      fun key value => Accepted (metered.coerceGlobal key) value := OrderedMap.each_empty _
  have params : ∀ inst ∈ (roomOf (.int 3)).instances,
      inst.params.Each fun key value => Accepted (metered.coerceLocal inst.packageId key) value := by
    intro inst listed
    cases List.mem_singleton.1 listed
    refine OrderedMap.each_ofList fun entry present => ?_
    cases List.mem_singleton.1 present
    exact ⟨.int 3, rfl⟩
  have quantities : fiveCables.quantities.Each fun _ q => Accepted Override.quantity q := by
    refine OrderedMap.each_ofList fun entry present => ?_
    cases List.mem_singleton.1 present
    exact ⟨.int 5, rfl⟩
  obtain ⟨resolution, found, _, sufficient⟩ := resolve_completes globals params quantities none
  obtain ⟨same, read, facts⟩ := toOption_map_eq_some_iff.1 smallRoom_modest
  cases found.symm.trans read
  obtain ⟨all, modest⟩ := Prod.mk.inj facts
  have finite := List.all_eq_true.1 all
  exact ⟨globals, params, quantities, resolution, found, finite,
    sufficient (fun resolved listed _ => finite resolved listed) (of_decide_eq_true modest)⟩

end Configuration

end WiringQuote
