import WiringQuote.Proofs.Session.LastWrite

/-!
# Offered and accepted products

Which products a row may be swapped to is told in two places. What is offered for it is looked for among
all product rows of its group, and a row without a group is offered none. What is accepted is looked for
by the id of the product, of which only the first row counts, and a product without a group is accepted
for a row without one.

* `accepts_iff`, `offers_iff`: what is accepted and what is offered, each from the product rows.
* `accepts_iff_offers_iff`: when the two agree.
* `groupless_accepted`: a product that is accepted for a row without being offered for it.
-/

namespace WiringQuote

open Fallible Overlay

/-- The row belongs to a group of products. -/
def LineItem.Grouped (item : LineItem) : Prop := ∃ name, item.group = some name ∧ name ≠ ""

namespace Catalog

/-- The product rows that can stand in for the product of a row of a group, and none for other rows. -/
theorem mem_alternatives_iff {catalog : Catalog} {location : Option String} {item : LineItem}
    {product : Product} : product ∈ catalog.alternatives item.group location ↔
      item.Grouped ∧ product ∈ catalog.products ∧ isAlternative location item product = true := by
  unfold alternatives LineItem.Grouped isAlternative
  cases item.group with
  | none => simp
  | some name =>
    by_cases blank : name = "" <;>
      simp [blank, availableInGroup, productsInGroup, List.mem_filter, and_comm]

/-- Where ids are distinct, the first product row with an id is the only one. -/
theorem product?_of_mem {catalog : Catalog} (distinct : (catalog.products.map (·.id)).Nodup)
    {product : Product} (listed : product ∈ catalog.products) :
    catalog.product? product.id = some product := by
  have some : (catalog.product? product.id).isSome = true := by
    unfold product?
    rw [List.find?_isSome]
    exact ⟨product, listed, decide_eq_true rfl⟩
  obtain ⟨first, found⟩ := Option.isSome_iff_exists.1 some
  have own : first.id = product.id := by simpa using List.find?_some found
  rw [found, List.inj_on_of_nodup_map distinct (List.mem_of_find?_eq_some found) listed own]

end Catalog

namespace Session

variable {s : Session} {itemId productId : String} {row : LineItem}

/-- A swap of the row to the product is not refused. -/
def Accepts (s : Session) (itemId productId : String) : Prop :=
  ∀ tag fault, (s.write tag (.swap (.str itemId) (.str productId))).1 = .error fault →
    fault.isRefusal = false

/-- The product is among those that are offered for the row. -/
def Offers (s : Session) (itemId productId : String) : Prop :=
  ∃ products, s.alternatives (.str itemId) = .ok products ∧ productId ∈ products.map (·.id)

section Row

variable (shown : s.row? itemId = some row)

include shown

theorem findRow_of_row? : s.findRow (.str itemId) = .ok row := by
  have found : (Value.str itemId).text?.bind s.row? = some row := shown
  unfold findRow
  rw [found]

/-- A swap is planned if the first row of the product can stand in, and the selected package does not
show the product in another row. -/
theorem planSwap_ok_iff {store : Store} :
    s.planSwap (.str itemId) (.str productId) = .ok store ↔
      (∃ product, s.catalog.product? productId = some product ∧
        isAlternative s.locationName row product = true) ∧
      s.clash? row productId = none ∧
      s.overlaid { s.store.overlay with swaps := s.store.overlay.swaps.insert row.id productId } =
        store := by
  unfold planSwap
  simp only [bind_ok_iff, pure_ok_iff]
  constructor
  · rintro ⟨item, found, id, standsIn, _, free, same⟩
    rw [findRow_of_row? shown] at found
    cases found
    cases alternativeKey_str standsIn
    exact ⟨alternativeKey_ok standsIn, checkClash_ok_iff.1 free, same⟩
  · rintro ⟨standsIn, free, same⟩
    exact ⟨row, findRow_of_row? shown, productId, alternativeKey_of_product standsIn, (),
      checkClash_ok_iff.2 free, same⟩

/-- What keeps a swap of a displayed row from being planned is a refusal. -/
theorem planSwap_refuses {fault : SessionFault}
    (failed : s.planSwap (.str itemId) (.str productId) = .error fault) :
    fault.isRefusal = true := by
  unfold planSwap at failed
  obtain unfound | ⟨_, _, failed⟩ := bind_error_iff.1 failed
  · rw [findRow_of_row? shown] at unfound
    cases unfound
  · obtain unfit | ⟨_, _, failed⟩ := bind_error_iff.1 failed
    · unfold alternativeKey at unfit
      obtain unnamed | ⟨_, _, unfit⟩ := bind_error_iff.1 unfit
      · cases unnamed
      · split at unfit <;> cases unfit
        rfl
    · obtain clash | ⟨_, _, failed⟩ := bind_error_iff.1 failed
      · unfold checkClash at clash
        split at clash <;> cases clash
        rfl
      · cases failed

theorem accepts_iff_planned :
    s.Accepts itemId productId ↔ ∃ store, s.planSwap (.str itemId) (.str productId) = .ok store := by
  constructor
  · intro accepts
    cases planned : s.planSwap (.str itemId) (.str productId) with
    | ok store => exact ⟨store, rfl⟩
    | error fault =>
      have failed : s.write "" (.swap (.str itemId) (.str productId)) = (.error fault, s) := by
        rw [write_eq]
        exact congrArg s.carryOut planned
      have refused := planSwap_refuses shown planned
      rw [accepts "" fault (congrArg Prod.fst failed)] at refused
      cases refused
  · rintro ⟨store, planned⟩ tag fault failed
    have committed : s.write tag (.swap (.str itemId) (.str productId)) = s.commit store := by
      rw [write_eq]
      exact congrArg s.carryOut planned
    rw [committed] at failed
    unfold commit at failed
    split at failed <;> cases failed
    rfl

theorem accepts_iff (free : s.clash? row productId = none) : s.Accepts itemId productId ↔
    ∃ product, s.catalog.product? productId = some product ∧
      isAlternative s.locationName row product = true := by
  simp only [accepts_iff_planned shown, planSwap_ok_iff shown, free, true_and, exists_and_left,
    exists_eq', and_true]

/-- What is offered are all products of the group that are available. -/
theorem offers_iff : s.Offers itemId productId ↔ row.Grouped ∧
    ∃ product ∈ s.catalog.products, product.id = productId ∧
      isAlternative s.locationName row product = true := by
  have listed : s.alternatives (.str itemId) =
      .ok (s.catalog.alternatives row.group s.locationName) := by
    unfold alternatives
    rw [findRow_of_row? shown]
    rfl
  unfold Offers
  rw [listed]
  simp only [Except.ok.injEq, exists_eq_left', List.mem_map, Catalog.mem_alternatives_iff]
  constructor
  · rintro ⟨product, ⟨grouped, known, standsIn⟩, own⟩
    exact ⟨grouped, product, known, own, standsIn⟩
  · rintro ⟨grouped, product, known, own, standsIn⟩
    exact ⟨product, ⟨grouped, known, standsIn⟩, own⟩

/-- What is accepted for a row of a group is offered. -/
theorem offers_of_accepts (grouped : row.Grouped) (free : s.clash? row productId = none)
    (accepts : s.Accepts itemId productId) : s.Offers itemId productId := by
  obtain ⟨product, first, standsIn⟩ := (accepts_iff shown free).1 accepts
  have own : product.id = productId := by simpa using List.find?_some first
  exact (offers_iff shown).2 ⟨grouped, product, List.mem_of_find?_eq_some first, own, standsIn⟩

/-- Where no id has two product rows, what is offered is accepted. -/
theorem accepts_of_offers (distinct : (s.catalog.products.map (·.id)).Nodup)
    (free : s.clash? row productId = none) (offers : s.Offers itemId productId) :
    s.Accepts itemId productId := by
  obtain ⟨_, product, listed, rfl, standsIn⟩ := (offers_iff shown).1 offers
  exact (accepts_iff shown free).2 ⟨product, Catalog.product?_of_mem distinct listed, standsIn⟩

/-- A product that no other row of the selected package shows is accepted for a displayed row exactly if
it is offered for it, apart from two cases: the row has no group, and then the first row of the product
must not be of the same kind and available; or a later row of the product could stand in, and then the
first one has to as well. In particular the two agree for rows of groups if no id has two product rows. -/
theorem accepts_iff_offers_iff (free : s.clash? row productId = none) :
    ((s.Accepts itemId productId ↔ s.Offers itemId productId) ↔
      (¬ row.Grouped → ∀ product, s.catalog.product? productId = some product →
        isAlternative s.locationName row product = false) ∧
      (row.Grouped → (∃ product ∈ s.catalog.products, product.id = productId ∧
          isAlternative s.locationName row product = true) →
        ∃ product, s.catalog.product? productId = some product ∧
          isAlternative s.locationName row product = true)) ∧
    (row.Grouped → (s.catalog.products.map (·.id)).Nodup →
      (s.Accepts itemId productId ↔ s.Offers itemId productId)) := by
  refine ⟨?_, fun grouped distinct => ⟨offers_of_accepts shown grouped free,
    accepts_of_offers shown distinct free⟩⟩
  constructor
  · intro agree
    refine ⟨fun ungrouped product first => ?_, fun grouped some => ?_⟩
    · by_contra standsIn
      have accepts := (accepts_iff shown free).2 ⟨product, first, by simpa using standsIn⟩
      exact ungrouped ((offers_iff shown).1 (agree.1 accepts)).1
    · exact (accepts_iff shown free).1 (agree.2 ((offers_iff shown).2 ⟨grouped, some⟩))
  · rintro ⟨groupless, first⟩
    constructor
    · intro accepts
      by_cases grouped : row.Grouped
      · exact offers_of_accepts shown grouped free accepts
      · obtain ⟨product, found, standsIn⟩ := (accepts_iff shown free).1 accepts
        rw [groupless grouped product found] at standsIn
        cases standsIn
    · intro offers
      obtain ⟨grouped, some⟩ := (offers_iff shown).1 offers
      exact (accepts_iff shown free).2 (first grouped some)

end Row

/-! ## Products without a group -/

/-- A package with a lamp of its own, and another lamp; neither has a group. -/
def looseLamps : Source where
  rows := {
    packages := [.obj [("id", .int 1), ("name", .str "Flur")]]
    items := [
      .obj [("id", .int 1), ("package_id", .int 1), ("produkt_gruppe_id", .str "GRP-LUM"),
        ("quantity_base", .int 2), ("product_selector", .obj [("selected_product_id", .str "A")])]]
    products := [
      .obj [("product_id", .str "A"), ("name", .str "A"), ("unit_price", .float 20.0)],
      .obj [("product_id", .str "B"), ("name", .str "B"), ("unit_price", .float 30.0)]]
    groups := []
    parameters := []
    links := [] }
  rates := []
  markup := 0.0
  prices := []
  locations := [.obj [("loc_id", .str "1"), ("name", .str "Hamburg")]]
  currentLocation := .str "1"
  outage := none

theorem looseLamps_selected : (Session.load looseLamps .null).toOption.map (fun start =>
    (start.settles selection,
      ((start.after selection).row? "1-00000001-A").map (·.group),
      ((start.after selection).planSwap (.str "1-00000001-A") (.str "B")).isOk)) =
    some (true, some none, true) := by decide +kernel

/-- The other lamp is accepted for the row of the first one, and it is not offered for it. -/
theorem groupless_accepted : ∃ start s row, Session.load looseLamps .null = .ok start ∧
    Run settled start s ∧ s.row? "1-00000001-A" = some row ∧ s.clash? row "B" = none ∧
    s.Accepts "1-00000001-A" "B" ∧ ¬ s.Offers "1-00000001-A" "B" := by
  obtain ⟨start, loaded, facts⟩ := toOption_map_eq_some_iff.1 looseLamps_selected
  obtain ⟨settles, facts⟩ := Prod.mk.inj facts
  obtain ⟨group, planned⟩ := Prod.mk.inj facts
  obtain ⟨row, shown, ungrouped⟩ := Option.map_eq_some_iff.1 group
  obtain ⟨store, accepted⟩ := isOk_iff.1 planned
  refine ⟨start, _, row, loaded, run_selection settles, shown,
    ((planSwap_ok_iff shown).1 accepted).2.1, (accepts_iff_planned shown).2 ⟨store, accepted⟩,
    fun offers => ?_⟩
  obtain ⟨⟨name, named, _⟩, _⟩ := (offers_iff shown).1 offers
  rw [ungrouped] at named
  cases named

/-! ## Products of a group -/

theorem twoLocations_selected : (Session.load twoLocations .null).toOption.map (fun start =>
    (start.settles selection,
      ((start.after selection).row? "1-00000001-PRE").map (fun row =>
        (row.group, ((start.after selection).clash? row "STD").isNone)),
      (start.after selection).catalog.products.map (·.id),
      ((start.after selection).alternatives (.str "1-00000001-PRE")).toOption.map (·.map (·.id)))) =
    some (true, some (some "GRP-SOC-SKT", true), ["STD", "PRE"], some ["STD", "PRE"]) := by
  decide +kernel

/-- For the socket of a package the two agree: another socket is offered and accepted. -/
theorem sockets_agree : ∃ start s row, Session.load twoLocations .null = .ok start ∧
    Run settled start s ∧ s.row? "1-00000001-PRE" = some row ∧ s.clash? row "STD" = none ∧
    s.Offers "1-00000001-PRE" "STD" ∧ s.Accepts "1-00000001-PRE" "STD" := by
  obtain ⟨start, loaded, facts⟩ := toOption_map_eq_some_iff.1 twoLocations_selected
  obtain ⟨settles, facts⟩ := Prod.mk.inj facts
  obtain ⟨found, facts⟩ := Prod.mk.inj facts
  obtain ⟨ids, offered⟩ := Prod.mk.inj facts
  obtain ⟨row, shown, own⟩ := Option.map_eq_some_iff.1 found
  obtain ⟨group, free⟩ := Prod.mk.inj own
  obtain ⟨products, listed, names⟩ := toOption_map_eq_some_iff.1 offered
  have free := Option.isNone_iff_eq_none.1 free
  have offers : (start.after selection).Offers "1-00000001-PRE" "STD" :=
    ⟨products, listed, by simp [names]⟩
  have distinct : ((start.after selection).catalog.products.map (·.id)).Nodup := by
    rw [ids]
    decide
  have grouped : row.Grouped := ⟨_, group, by decide⟩
  exact ⟨start, _, row, loaded, run_selection settles, shown, free, offers,
    ((accepts_iff_offers_iff shown free).2 grouped distinct).2 offers⟩

end Session

end WiringQuote
