import WiringQuote.Proofs.Fallible
import WiringQuote.Proofs.OrderedMap
import WiringQuote.Protection.Derive

/-!
# Rows by id

What each operation on a row keeps, and that the rows which are built and derived have distinct ids:

* `merge_keeps`, `withProduct_keeps`, `withQuantity_keeps`: the id and the selected package stay.
* `build_ids_nodup`: rows of rules have distinct ids.
* `derive_ids_nodup`: protection rows have distinct ids, and all belong to the package of their own.
-/

namespace WiringQuote

open Fallible

namespace LineItem

/-- What a row is the row of: a selected package and a product. -/
def pair (item : LineItem) : String × String := (item.instanceId, item.productId)

/-! ## What stays -/

/-- The row keeps its id and its selected package. -/
structure Keeps (before after : LineItem) : Prop where
  id : after.id = before.id
  instanceId : after.instanceId = before.instanceId

theorem Keeps.refl (item : LineItem) : Keeps item item := ⟨rfl, rfl⟩

theorem Keeps.trans {a b c : LineItem} (first : Keeps a b) (second : Keeps b c) : Keeps a c :=
  ⟨second.id.trans first.id, second.instanceId.trans first.instanceId⟩

/-- A switched row has what the product row says of itself, and hours of its own. -/
theorem withProduct_ok {item row : LineItem} {product : Product}
    (switched : item.withProduct product = .ok row) :
    ∃ perUnit total, row = { item with
      productId := product.id
      name := product.name
      unit := product.unit
      unitPrice := product.unitPrice
      category := product.category
      group := product.group
      quality := product.quality
      hoursPerUnit := perUnit
      hoursTotal := total } := by
  unfold withProduct at switched
  simp only [bind_ok_iff, pure_ok_iff] at switched
  obtain ⟨perUnit, _, total, _, rfl⟩ := switched
  exact ⟨perUnit, total, rfl⟩

/-- A row can be switched exactly if its multiplier and its quantity are in range. -/
theorem exists_withProduct_iff {item : LineItem} {product : Product} :
    (∃ row, item.withProduct product = .ok row) ↔
      (∃ x, item.hoursMultiplier.toFloat = .ok x) ∧ ∃ x, item.quantity.toFloat = .ok x := by
  unfold withProduct unitHours hoursFor
  simp only [bind_ok_iff, pure_ok_iff]
  constructor
  · rintro ⟨_, _, ⟨factor, known, _⟩, _, ⟨units, counted, _⟩, _⟩
    exact ⟨⟨factor, known⟩, units, counted⟩
  · rintro ⟨⟨factor, known⟩, units, counted⟩
    exact ⟨_, _, ⟨factor, known, rfl⟩, _, ⟨units, counted, rfl⟩, rfl⟩

theorem withProduct_keeps {item row : LineItem} {product : Product}
    (switched : item.withProduct product = .ok row) :
    Keeps item row ∧ row.productId = product.id := by
  obtain ⟨_, _, rfl⟩ := withProduct_ok switched
  exact ⟨⟨rfl, rfl⟩, rfl⟩

/-- The row shows what a product row says of itself. -/
structure Shows (row : LineItem) (product : Product) : Prop where
  productId : row.productId = product.id
  name : row.name = product.name
  unit : row.unit = product.unit
  unitPrice : row.unitPrice = product.unitPrice
  category : row.category = product.category
  group : row.group = product.group
  quality : row.quality = product.quality

theorem withProduct_shows {item row : LineItem} {product : Product}
    (switched : item.withProduct product = .ok row) : row.Shows product := by
  obtain ⟨_, _, rfl⟩ := withProduct_ok switched
  exact ⟨rfl, rfl, rfl, rfl, rfl, rfl, rfl⟩

/-- A row with another quantity has hours for that quantity. -/
theorem withQuantity_ok {item row : LineItem} {quantity : Number}
    (counted : item.withQuantity quantity = .ok row) :
    ∃ total, row = { item with quantity, hoursTotal := total } := by
  unfold withQuantity at counted
  simp only [bind_ok_iff, pure_ok_iff] at counted
  obtain ⟨total, _, rfl⟩ := counted
  exact ⟨total, rfl⟩

/-- The quantity of a row can be set exactly if the new one is in range. -/
theorem exists_withQuantity_iff {item : LineItem} {quantity : Number} :
    (∃ row, item.withQuantity quantity = .ok row) ↔ ∃ x, quantity.toFloat = .ok x := by
  unfold withQuantity hoursFor
  simp only [bind_ok_iff, pure_ok_iff]
  constructor
  · rintro ⟨_, _, ⟨units, counted, _⟩, _⟩
    exact ⟨units, counted⟩
  · rintro ⟨units, counted⟩
    exact ⟨_, _, ⟨units, counted, rfl⟩, rfl⟩

theorem withQuantity_keeps {item row : LineItem} {quantity : Number}
    (counted : item.withQuantity quantity = .ok row) :
    Keeps item row ∧ row.productId = item.productId := by
  obtain ⟨_, rfl⟩ := withQuantity_ok counted
  exact ⟨⟨rfl, rfl⟩, rfl⟩

theorem withQuantity_shows {item row : LineItem} {product : Product} {quantity : Number}
    (counted : item.withQuantity quantity = .ok row) (shows : item.Shows product) :
    row.Shows product := by
  obtain ⟨_, rfl⟩ := withQuantity_ok counted
  exact { shows with }

/-- A merged row is the first one with the rules and quantities of both together, and with hours of its
own. -/
theorem merge_ok {target other row : LineItem} (merged : target.merge other = .ok row) :
    ∃ quantity calculated perUnit total, target.quantity.add other.quantity = .ok quantity ∧
      row = { target with
        quantity
        calculated
        ruleIds := target.ruleIds ++ other.ruleIds
        hoursPerUnit := perUnit
        hoursTotal := total } := by
  unfold merge at merged
  simp only [bind_ok_iff, pure_ok_iff] at merged
  obtain ⟨quantity, added, perUnit, _, rfl⟩ := merged
  exact ⟨quantity, _, perUnit, _, added, rfl⟩

theorem exists_average_iff {hours : PerRole Float} {quantity : Number} :
    (∃ perUnit, average hours quantity = .ok perUnit) ↔ ∃ x, quantity.toFloat = .ok x := by
  unfold average
  split
  · rename_i zero
    refine iff_of_true ⟨_, rfl⟩ ?_
    cases quantity with
    | int n =>
      have none : n = 0 := by simpa [Number.isZero] using zero
      subst none
      exact isOk_iff.1 (by decide +kernel)
    | float x => exact ⟨x, rfl⟩
  · simp only [bind_ok_iff, pure_ok_iff]
    constructor
    · rintro ⟨_, units, counted, _⟩
      exact ⟨units, counted⟩
    · rintro ⟨units, counted⟩
      exact ⟨_, units, counted, rfl⟩

/-- Rows can be merged exactly if their quantities have a sum, and it is in range. -/
theorem exists_merge_iff {target other : LineItem} :
    (∃ row, target.merge other = .ok row) ↔
      ∃ quantity, target.quantity.add other.quantity = .ok quantity ∧
        ∃ x, quantity.toFloat = .ok x := by
  unfold merge
  simp only [bind_ok_iff, pure_ok_iff]
  constructor
  · rintro ⟨_, quantity, added, perUnit, averaged, _⟩
    exact ⟨quantity, added, exists_average_iff.1 ⟨perUnit, averaged⟩⟩
  · rintro ⟨quantity, added, counted⟩
    obtain ⟨perUnit, averaged⟩ := exists_average_iff.2 counted
    exact ⟨_, quantity, added, perUnit, averaged, rfl⟩

theorem merge_keeps {target other row : LineItem} (merged : target.merge other = .ok row) :
    Keeps target row ∧ row.productId = target.productId := by
  obtain ⟨_, _, _, _, _, rfl⟩ := merge_ok merged
  exact ⟨⟨rfl, rfl⟩, rfl⟩

/-- A merged row has the rules of both rows and their quantities together. -/
theorem merge_adds {target other row : LineItem} (merged : target.merge other = .ok row) :
    row.ruleIds = target.ruleIds ++ other.ruleIds ∧
      target.quantity.add other.quantity = .ok row.quantity := by
  obtain ⟨_, _, _, _, added, rfl⟩ := merge_ok merged
  exact ⟨rfl, added⟩

theorem merge_shows {target other row : LineItem} {product : Product}
    (merged : target.merge other = .ok row) (shows : target.Shows product) : row.Shows product := by
  obtain ⟨_, _, _, _, _, rfl⟩ := merge_ok merged
  exact { shows with }

/-- A row is made where it belongs, of the product and with the quantity and the multiplier that are
given. -/
theorem make_ok {place : Placement} {product : Product} {quantity multiplier : Number}
    {calculated : Option Float} {isProtection : Bool} {row : LineItem}
    (made : make place product quantity multiplier calculated isProtection = .ok row) :
    ∃ perUnit total unrounded, row = {
      id := lineItemId place.instanceId product.id
      instanceId := place.instanceId
      packageId := place.packageId
      packageName := place.packageName
      productId := product.id
      name := product.name
      unit := product.unit
      quantity
      unitPrice := product.unitPrice
      category := product.category
      group := product.group
      quality := product.quality
      hoursMultiplier := multiplier
      hoursPerUnit := perUnit
      hoursTotal := total
      calculated := unrounded
      ruleIds := []
      isProtection
      localPrice := none
      localMarkup := none
      manualHours := .const none } := by
  unfold make at made
  simp only [bind_ok_iff] at made
  obtain ⟨perUnit, _, total, _, made⟩ := made
  cases calculated with
  | none =>
    obtain ⟨unrounded, _, same⟩ := bind_ok_iff.1 made
    cases same
    exact ⟨perUnit, total, unrounded, rfl⟩
  | some x =>
    cases made
    exact ⟨perUnit, total, x, rfl⟩

theorem make_fields {place : Placement} {product : Product} {quantity multiplier : Number}
    {calculated : Option Float} {isProtection : Bool} {row : LineItem}
    (made : make place product quantity multiplier calculated isProtection = .ok row) :
    row.instanceId = place.instanceId ∧ row.quantity = quantity ∧
      row.hoursMultiplier = multiplier := by
  obtain ⟨_, _, _, rfl⟩ := make_ok made
  exact ⟨rfl, rfl, rfl⟩

theorem make_shows {place : Placement} {product : Product} {quantity multiplier : Number}
    {calculated : Option Float} {isProtection : Bool} {row : LineItem}
    (made : make place product quantity multiplier calculated isProtection = .ok row) :
    row.Shows product := by
  obtain ⟨_, _, _, rfl⟩ := make_ok made
  exact ⟨rfl, rfl, rfl, rfl, rfl, rfl, rfl⟩

/-- The row of a rule is made of the selected product, for the package of the rule, with its rounded
quantity. -/
theorem ofRule_ok {package : Option Package} {resolved : ResolvedRule} {product : Product}
    {row : LineItem} (made : ofRule package resolved product = .ok row) :
    row.id = lineItemId resolved.instanceId product.id ∧
      row.instanceId = resolved.instanceId ∧ row.Shows product ∧
      row.ruleIds = [resolved.rule.id] ∧
      ∃ n, roundQuantity (.float resolved.quantity) = .ok n ∧ row.quantity = .int n := by
  unfold ofRule at made
  obtain ⟨n, rounded, made⟩ := bind_ok_iff.1 made
  obtain ⟨_, _, made⟩ := bind_ok_iff.1 made
  obtain ⟨item, own, same⟩ := bind_ok_iff.1 made
  cases same
  have shows := make_shows own
  obtain ⟨_, _, _, rfl⟩ := make_ok own
  exact ⟨rfl, rfl, { shows with }, rfl, n, rounded, rfl⟩

/-! ## Sheets -/

/-- The rows of a sheet are kept under their ids, and each belongs where it may. -/
structure Sheet.Sound (belongs : String → Prop) (sheet : Sheet) : Prop where
  keyed : sheet.rows.KeyedBy id
  placed : ∀ key row, sheet.rows.get? key = some row → belongs row.instanceId

theorem Sheet.sound_empty (belongs : String → Prop) : Sheet.empty.Sound belongs := by
  refine ⟨OrderedMap.keyedBy_empty _, fun key row found => ?_⟩
  rw [Sheet.empty, OrderedMap.get?_empty] at found
  cases found

/-- A row is put under its id; a row that is there absorbs it. -/
theorem Sheet.add_ok {sheet next : Sheet} {item : LineItem} (added : sheet.add item = .ok next) :
    (sheet.rows.get? item.id = none ∧ next = { sheet with rows := sheet.rows.insert item.id item }) ∨
      ∃ existing merged, sheet.rows.get? item.id = some existing ∧ existing.merge item = .ok merged ∧
        next = { sheet with rows := sheet.rows.insert item.id merged } := by
  unfold Sheet.add at added
  cases found : sheet.rows.get? item.id with
  | none =>
    rw [found] at added
    cases added
    exact .inl ⟨rfl, rfl⟩
  | some existing =>
    rw [found] at added
    obtain ⟨merged, absorbed, same⟩ := bind_ok_iff.1 added
    cases same
    exact .inr ⟨existing, merged, rfl, absorbed, rfl⟩

theorem Sheet.Sound.add {belongs : String → Prop} {sheet next : Sheet} {item : LineItem}
    (sound : sheet.Sound belongs) (own : belongs item.instanceId)
    (added : sheet.add item = .ok next) : next.Sound belongs := by
  have insert : ∀ row : LineItem, row.id = item.id → belongs row.instanceId →
      Sound belongs { sheet with rows := sheet.rows.insert item.id row } := by
    intro row sameId placed
    refine ⟨sound.keyed.insert sameId, fun key other found => ?_⟩
    rw [OrderedMap.get?_insert] at found
    split at found
    · cases found
      exact placed
    · exact sound.placed key other found
  rcases Sheet.add_ok added with ⟨_, rfl⟩ | ⟨existing, row, found, merged, rfl⟩
  · exact insert item rfl own
  · obtain ⟨kept, _⟩ := merge_keeps merged
    exact insert row (kept.id.trans (sound.keyed _ _ found))
      (kept.instanceId ▸ sound.placed _ _ found)

theorem Sheet.Sound.report {belongs : String → Prop} {sheet : Sheet} (sound : sheet.Sound belongs)
    (diagnostic : Diagnostic) : (sheet.report diagnostic).Sound belongs :=
  ⟨sound.keyed, sound.placed⟩

theorem Sheet.Sound.ids_nodup {belongs : String → Prop} {sheet : Sheet}
    (sound : sheet.Sound belongs) : (sheet.rows.values.map (·.id)).Nodup :=
  sound.keyed.nodup

theorem addRule_sound {catalog : Catalog} {preference : Preference} {sheet next : Sheet}
    {resolved : ResolvedRule} (sound : sheet.Sound fun _ => True)
    (added : addRule catalog preference sheet resolved = .ok next) :
    next.Sound fun _ => True := by
  unfold addRule at added
  split at added
  · dsimp only at added
    split at added
    · cases added
      exact sound.report _
    · obtain ⟨item, _, put⟩ := bind_ok_iff.1 added
      exact sound.add trivial put
  · cases added
    exact sound

/-- Rows of rules have distinct ids. -/
theorem build_ids_nodup {catalog : Catalog} {preference : Preference} {resolution : Resolution}
    {sheet : Sheet} (built : build catalog preference resolution = .ok sheet) :
    (sheet.rows.values.map (·.id)).Nodup :=
  (foldlM_induction built (Sheet.sound_empty _) fun _ _ _ _ sound added =>
    addRule_sound sound added).ids_nodup

end LineItem

namespace Protection

open LineItem

theorem addDevice_sound {catalog : Catalog} {preference : Preference} {sheet next : Sheet}
    {device : String × Number} (sound : sheet.Sound (· = instanceId))
    (added : addDevice catalog preference sheet device = .ok next) :
    next.Sound (· = instanceId) := by
  unfold addDevice at added
  dsimp only at added
  split at added
  · cases added
    exact sound.report _
  · obtain ⟨item, made, put⟩ := bind_ok_iff.1 added
    exact sound.add (make_fields made).1 put

/-- Protection rows are added for each of the required devices. -/
theorem derive_ok_iff {catalog : Catalog} {preference : Preference} {items : List LineItem}
    {sheet : Sheet} : derive catalog preference items = .ok sheet ↔
      ∃ consumers devices, Consumers.ofItems items = .ok consumers ∧
        required consumers = .ok devices ∧
        devices.foldlM (addDevice catalog preference) .empty = .ok sheet := by
  unfold derive
  simp only [bind_ok_iff]
  constructor
  · rintro ⟨consumers, counted, devices, listed, run⟩
    exact ⟨consumers, devices, counted, listed, run⟩
  · rintro ⟨consumers, devices, counted, listed, run⟩
    exact ⟨consumers, counted, devices, listed, run⟩

theorem derive_sound {catalog : Catalog} {preference : Preference} {items : List LineItem}
    {sheet : Sheet} (derived : derive catalog preference items = .ok sheet) :
    sheet.Sound (· = instanceId) := by
  obtain ⟨_, devices, _, _, run⟩ := derive_ok_iff.1 derived
  exact foldlM_induction run (Sheet.sound_empty _) fun _ _ _ _ sound added =>
    addDevice_sound sound added

/-- Protection rows have distinct ids. -/
theorem derive_ids_nodup {catalog : Catalog} {preference : Preference} {items : List LineItem}
    {sheet : Sheet} (derived : derive catalog preference items = .ok sheet) :
    (sheet.rows.values.map (·.id)).Nodup :=
  (derive_sound derived).ids_nodup

theorem derive_placed {catalog : Catalog} {preference : Preference} {items : List LineItem}
    {sheet : Sheet} (derived : derive catalog preference items = .ok sheet) {row : LineItem}
    (present : row ∈ sheet.rows.values) : row.instanceId = instanceId := by
  obtain ⟨key, found⟩ := OrderedMap.mem_values_iff.1 present
  exact (derive_sound derived).placed key row found

end Protection

end WiringQuote
