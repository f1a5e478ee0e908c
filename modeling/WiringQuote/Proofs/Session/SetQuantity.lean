import WiringQuote.Proofs.Session.Local
import WiringQuote.Proofs.Session.Unrevised
import WiringQuote.Proofs.Sizing

/-!
# Set quantities

A quantity is set for a displayed row, and it replaces that of one of the rows before: the one with the
same id. Where others are merged with that row, their units are added to it again.

* `revise_quantity_iff`: a revised row has the set quantity exactly if it is alone.
* `setQuantity_iff`: after a quantity is set, exactly the rows that are alone are displayed with it.
* `mergedLamps_added`: a merged row of which another quantity is displayed than was set.
-/

namespace WiringQuote

open Fallible LineItem

namespace Overlay

variable {overlay : Overlay} {catalog : Catalog} {location : Option String}

/-- Where all rows count at least one unit, those of one of them are the units of all only if there are no
others. -/
theorem eq_of_sum_eq {rows : List LineItem} {item : LineItem} (listed : item ∈ rows)
    (least : ∀ row ∈ rows, 1 ≤ overlay.counted row)
    (sum : (rows.map overlay.counted).sum = overlay.counted item) : ∀ row ∈ rows, row = item := by
  have atLeast : ∀ part : List LineItem, part ⊆ rows → part.length • (1 : Int) ≤
      (part.map overlay.counted).sum := by
    intro part within
    have bound := List.card_nsmul_le_sum (part.map overlay.counted) 1 fun n counted => by
      obtain ⟨row, present, rfl⟩ := List.mem_map.1 counted
      exact least row (within present)
    rwa [List.length_map] at bound
  obtain ⟨before, after, rfl⟩ := List.append_of_mem listed
  have first := atLeast before (List.subset_append_left _ _)
  have last := atLeast after (List.subset_append_of_subset_right _ (List.subset_cons_self _ _))
  simp only [List.map_append, List.map_cons, List.sum_append, List.sum_cons, nsmul_eq_mul,
    mul_one] at sum first last
  have none : before.length = 0 ∧ after.length = 0 := by omega
  rw [List.length_eq_zero_iff.1 none.1, List.length_eq_zero_iff.1 none.2]
  simp

/-- Every row counts at least one unit. -/
theorem one_le_counted {items : List LineItem} (asMade : AsMade items)
    (least : ∀ id n, overlay.quantities.get? id = some n → 1 ≤ n) {item : LineItem}
    (listed : item ∈ items) : 1 ≤ overlay.counted item := by
  unfold counted
  cases set : overlay.quantities.get? item.id with
  | some n => exact least _ _ set
  | none =>
    obtain ⟨n, one, quantity⟩ := asMade.filled item listed
    rw [Option.getD_none, amount_of_quantity quantity]
    exact one

section Revise

variable {items rows : List LineItem} {id : String} {n : Int} (asMade : AsMade items)
  (revised : overlay.revise catalog location items = .ok rows)

include asMade revised

/-- A row that is alone has the set quantity. -/
theorem Alone.shows (alone : overlay.Alone catalog location items id)
    (set : overlay.quantities.get? id = some n) :
    ∃ row ∈ rows, row.id = id ∧ row.quantity = .int n := by
  obtain ⟨item, listed, rfl, apart⟩ := alone
  obtain ⟨table, rfl, merged⟩ := revise_merged asMade.native asMade.integral revised
  have covered : overlay.shown catalog location item ∈ table.keys :=
    (merged.covers _).2 (List.mem_map_of_mem listed)
  obtain ⟨row, found⟩ := OrderedMap.mem_keys_iff.1 covered
  have unites : overlay.Unites (overlay.shown catalog location item) [item] row := by
    rw [← filter_eq_singleton asMade.ids listed apart]
    exact merged.unites _ _ found
  refine ⟨row, OrderedMap.mem_values_iff.2 ⟨_, found⟩, ?_, ?_⟩
  · have bears := unites.bears
    rw [bearer_singleton] at bears
    exact (Option.some.inj bears).symm
  · have own : overlay.counted item = n := by
      unfold counted
      rw [set, Option.getD_some]
    simpa [own] using unites.quantity

/-- A row with the set quantity is alone: any other row that shows its pair would count in addition. -/
theorem alone_of_shows (least : ∀ id n, overlay.quantities.get? id = some n → 1 ≤ n)
    (set : overlay.quantities.get? id = some n) {row : LineItem} (present : row ∈ rows)
    (own : row.id = id) (quantity : row.quantity = .int n) :
    overlay.Alone catalog location items id := by
  obtain ⟨table, rfl, merged⟩ := revise_merged asMade.native asMade.integral revised
  have unites := merged.unites_own present
  obtain ⟨item, borne, sameId⟩ := Option.map_eq_some_iff.1 unites.bears
  have bearer := mem_of_bearer borne
  obtain ⟨listed, shows⟩ := List.mem_filter.1 bearer
  have counts : overlay.counted item = n := by
    unfold counted
    rw [sameId, own, set, Option.getD_some]
  have sum := Number.int.inj (unites.quantity.symm.trans quantity)
  have only := eq_of_sum_eq bearer (fun other united => one_le_counted asMade least
    (List.mem_filter.1 (List.mem_filter.1 united).1).1) (sum.trans counts.symm)
  refine ⟨item, listed, sameId.trans own, fun other stays differs same => differs ?_⟩
  have united : other ∈ (overlay.kept items).filter fun item =>
      overlay.shown catalog location item = row.pair :=
    List.mem_filter.2 ⟨stays, decide_eq_true (same.trans (of_decide_eq_true shows))⟩
  rw [only other united, sameId, own]

/-- Exactly a row that is alone has the set quantity. -/
theorem revise_quantity_iff (least : ∀ id n, overlay.quantities.get? id = some n → 1 ≤ n)
    (set : overlay.quantities.get? id = some n) :
    (∃ row ∈ rows, row.id = id ∧ row.quantity = .int n) ↔
      overlay.Alone catalog location items id :=
  ⟨fun ⟨_, present, own, quantity⟩ => alone_of_shows asMade revised least set present own quantity,
    fun alone => alone.shows asMade revised set⟩

end Revise

end Overlay

namespace Session

variable {start s t : Session}

theorem planQuantity_ok {itemId value : Value} {store : Store}
    (planned : s.planQuantity itemId value = .ok store) : ∃ id n, itemId = .str id ∧
      Override.quantity value = .ok n ∧ store = s.overlaid { s.store.overlay with
        quantities := s.store.overlay.quantities.insert id n } := by
  unfold planQuantity at planned
  obtain ⟨n, cleaned, planned⟩ := bind_ok_iff.1 planned
  obtain ⟨item, found, same⟩ := bind_ok_iff.1 planned
  cases same
  exact ⟨item.id, n, findRow_ok found, mapError_ok_iff.1 cleaned, rfl⟩

/-- A row is displayed as one of these rows with this quantity. -/
def ShowsQuantity (rows : List LineItem) (id : String) (n : Int) : Prop :=
  ∃ row ∈ rows, row.id = id ∧ row.quantity = .int n

theorem showsQuantity_iff {rows : List LineItem} {id : String} {n : Int} :
    ShowsQuantity rows id n ↔ (id, Number.int n) ∈ rows.map fun row => (row.id, row.quantity) := by
  simp [ShowsQuantity]

/-- After any writes, a set quantity is accepted as a whole number, and the row that it was set for is
displayed with it exactly if that row is alone: of the rows before that are not removed, no other shows the
same product for the same package. -/
theorem setQuantity_iff {source : Source} {asked : Value} {tag : String} {itemId value : Value}
    (loaded : Session.load source asked = .ok start) (run : Run anyOutcome start s)
    (done : s.write tag (.setQuantity itemId value) = (.ok (), t)) :
    ∃ id n before, itemId = .str id ∧ Override.quantity value = .ok n ∧
      t.store.unrevised t.reference = .ok before ∧
      (ShowsQuantity t.display.items id n ↔
        t.store.overlay.Alone t.catalog t.locationName before.products id) ∧
      (ShowsQuantity t.display.protection id n ↔
        t.store.overlay.Alone t.catalog t.locationName before.devices id) := by
  have next : Run anyOutcome start t := by
    have written : (s.write tag (.setQuantity itemId value)).2 = t := by rw [done]
    exact written ▸ .write run trivial
  have canonical := (run_valid loaded next).2.canonical
  rw [write_eq] at done
  obtain ⟨store, planned, shows, same⟩ := carryOut_ok done
  obtain ⟨id, n, rfl, cleaned, placed⟩ := planQuantity_ok planned
  have reference : t.reference = s.reference := by rw [same]
  have stored : t.store = store := by rw [same]
  have set : t.store.overlay.quantities.get? id = some n := by
    rw [stored, placed]
    exact (OrderedMap.get?_insert ..).trans (if_pos rfl)
  rw [← stored, ← reference] at shows
  obtain ⟨stages, of, display⟩ := Store.display_ok_iff.1 shows
  have built := Store.built_asMade of canonical
  have derived := Store.derived_asMade of canonical
  have items : t.display.items.map (fun row => (row.id, row.quantity)) =
      stages.revised.map fun row => (row.id, row.quantity) := by
    rw [display, List.map_map]
    refine of.items_map (Overlay.revise_ids_nodup built.ids of.revised)
      fun chosen before after sizes => ?_
    exact Prod.ext sizes.stays.id sizes.quantity
  have devices : t.display.protection.map (fun row => (row.id, row.quantity)) =
      stages.protection.map fun row => (row.id, row.quantity) := by
    rw [display, List.map_map]
    rfl
  refine ⟨id, n, _, rfl, cleaned, Store.unrevised_eq of, ?_, ?_⟩
  · rw [showsQuantity_iff, items, ← showsQuantity_iff]
    exact Overlay.revise_quantity_iff built of.revised canonical.quantities set
  · rw [showsQuantity_iff, devices, ← showsQuantity_iff]
    exact Overlay.revise_quantity_iff derived of.protection canonical.quantities set

/-- More sockets than the package asks for. -/
def seventeenSockets : Write := .setQuantity (.str "1-00000001-SKT") (.str "17,0")

theorem seventeenSockets_shown : (Session.load twoEnclosures .null).toOption.map (fun start =>
    (start.settles selection, ((start.after selection).write "" seventeenSockets).1.isOk,
      ((start.after selection).write "" seventeenSockets).2.display.items.map fun row =>
        (row.id, row.quantity))) =
    some (true, true, [("1-00000001-SKT", .int 17), ("1-00000001-UV-24", .int 1),
      ("1-00000001-UV-12", .int 1)]) := by decide +kernel

/-- They are displayed, as no other row is one of these sockets. -/
theorem seventeenSockets_alone : ∃ start s t before, Session.load twoEnclosures .null = .ok start ∧
    Run anyOutcome start s ∧ s.write "" seventeenSockets = (.ok (), t) ∧
    t.store.unrevised t.reference = .ok before ∧ ShowsQuantity t.display.items "1-00000001-SKT" 17 ∧
    t.store.overlay.Alone t.catalog t.locationName before.products "1-00000001-SKT" := by
  obtain ⟨start, loaded, facts⟩ := toOption_map_eq_some_iff.1 seventeenSockets_shown
  obtain ⟨settles, facts⟩ := Prod.mk.inj facts
  obtain ⟨done, rows⟩ := Prod.mk.inj facts
  obtain ⟨t, done⟩ := done_of_isOk done
  rw [done] at rows
  have run : Run anyOutcome start _ := (run_selection settles).mono fun _ _ _ => trivial
  obtain ⟨id, n, before, own, cleaned, made, products, _⟩ := setQuantity_iff loaded run done
  obtain rfl : "1-00000001-SKT" = id := by simpa using own
  have value : Override.quantity (.str "17,0") = .ok 17 :=
    toOption_eq_some_iff.1 (by decide +kernel)
  obtain rfl : 17 = n := Except.ok.inj (value.symm.trans cleaned)
  have shown : ShowsQuantity t.display.items "1-00000001-SKT" 17 := by
    rw [showsQuantity_iff, rows]
    exact List.mem_cons_self
  exact ⟨start, _, t, before, loaded, run, done, made, shown, products.1 shown⟩

/-! ## A merged row -/

/-- A package with two lamps of one kind and three of another. -/
def lampRoom : Source where
  rows := {
    packages := [.obj [("id", .int 1), ("name", .str "Flur")]]
    items := [
      .obj [("id", .int 1), ("package_id", .int 1), ("produkt_gruppe_id", .str "GRP-LUM"),
        ("quantity_base", .int 2), ("product_selector", .obj [("selected_product_id", .str "A")])],
      .obj [("id", .int 2), ("package_id", .int 1), ("produkt_gruppe_id", .str "GRP-LUM"),
        ("quantity_base", .int 3), ("product_selector", .obj [("selected_product_id", .str "B")])]]
    products := [
      .obj [("product_id", .str "A"), ("name", .str "A"), ("produkt_gruppe", .str "GRP-LUM"),
        ("unit_price", .float 20.0)],
      .obj [("product_id", .str "B"), ("name", .str "B"), ("produkt_gruppe", .str "GRP-LUM"),
        ("unit_price", .float 30.0)]]
    groups := []
    parameters := []
    links := [] }
  rates := []
  markup := 0.0
  prices := []
  locations := [.obj [("loc_id", .str "1"), ("name", .str "Hamburg")]]
  currentLocation := .str "1"
  outage := none

/-- The package with its first lamps swapped to the second ones. -/
def sameLamps : SavedState where
  location := none
  globals := .empty
  instances := [⟨"1-00000001", 1, .empty⟩]
  prices := .empty
  markups := .empty
  hours := .empty
  quantities := .empty
  swaps := .ofList [("1-00000001-A", "B")]
  removed := []
  wages := .empty

/-- Ten lamps are set for the row that is left. -/
def tenLamps : Write := .setQuantity (.str "1-00000001-B") (.int 10)

theorem mergedLamps_rows : (Session.load lampRoom .null).toOption.map (fun start =>
    let s := start.after [("", .restore sameLamps)]
    (start.settles [("", .restore sameLamps)], s.rows.map (fun row => (row.id, row.quantity)),
      (s.write "" tenLamps).1.isOk,
      (s.write "" tenLamps).2.rows.map fun row => (row.id, row.quantity))) =
    some (true, [("1-00000001-B", .int 5)], true, [("1-00000001-B", .int 12)]) := by decide +kernel

/-- The row is displayed with twelve, since the first lamps are merged with it. -/
theorem mergedLamps_added : ∃ start s t, Session.load lampRoom .null = .ok start ∧
    Run settled start s ∧ ShowsQuantity s.rows "1-00000001-B" 5 ∧
    s.write "" tenLamps = (.ok (), t) ∧ Override.quantity (.int 10) = .ok 10 ∧
    ¬ ShowsQuantity t.rows "1-00000001-B" 10 := by
  obtain ⟨start, loaded, facts⟩ := toOption_map_eq_some_iff.1 mergedLamps_rows
  obtain ⟨settles, facts⟩ := Prod.mk.inj facts
  obtain ⟨before, facts⟩ := Prod.mk.inj facts
  obtain ⟨done, after⟩ := Prod.mk.inj facts
  obtain ⟨t, done⟩ := done_of_isOk done
  rw [done] at after
  have run : Run settled start _ := run_of_settles (fun _ _ _ settled => settled) .refl settles
  refine ⟨start, _, t, loaded, run, showsQuantity_iff.2 (before ▸ List.mem_cons_self), done,
    toOption_eq_some_iff.1 (by decide +kernel), ?_⟩
  rw [showsQuantity_iff, after]
  decide

end Session

end WiringQuote
