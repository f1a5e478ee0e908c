import Mathlib.Algebra.BigOperators.Group.List.Lemmas
import Mathlib.Algebra.Group.Prod
import WiringQuote.Proofs.LineItem.Conservation
import WiringQuote.Proofs.Session.Quantities

/-!
# No device is lost or counted twice

Protection devices are counted from the consumers among the rows. Whole numbers are added up without an
error, so the order of the rows is of no account, and protection rows are no consumers. Each required
device is then put in the row of its product, or reported where there is none.

* `Consumers.ofItems_perm`: the consumers of rows in another order, with protection rows among them.
* `Supplies`: what the rows and the reports hold, of the devices that are done so far.
* `derive_accounts`: the rows and the reports together hold the required devices, each of them once.
-/

namespace WiringQuote

open Decimal Fallible LineItem

/-! ## Consumers -/

/-- The row is a protection device, or of whole units. -/
def LineItem.Countable (item : LineItem) : Prop :=
  item.isProtection = false → ∃ n : Int, item.quantity = .int n

namespace Consumers

/-- So many sockets, lights and stoves. -/
def ofCounts (counts : ℤ × ℤ × ℤ) : Consumers :=
  ⟨.int counts.1, .int counts.2.1, .int counts.2.2⟩

/-- The sockets, lights and stoves of so many units of a group. -/
def countsOf (group : Option String) (n : Int) : ℤ × ℤ × ℤ :=
  if group = some ProductGroups.socketSingle then (n, 0, 0)
  else if group = some ProductGroups.socketDouble then (n * 2, 0, 0)
  else if group = some ProductGroups.lightSwitch then (0, n, 0)
  else if group = some ProductGroups.stove then (0, 0, n)
  else 0

/-- The sockets, lights and stoves of a row; none of a protection row. -/
def share (item : LineItem) : ℤ × ℤ × ℤ :=
  if item.isProtection then 0
  else match item.quantity with
    | .int n => countsOf item.group n
    | .float _ => 0

theorem addItem_share {item : LineItem} (countable : item.Countable) (counts : ℤ × ℤ × ℤ) :
    (ofCounts counts).addItem item = .ok (ofCounts (counts + share item)) := by
  unfold share addItem
  by_cases device : item.isProtection = true
  · rw [if_pos device, if_pos device, add_zero]
  · obtain ⟨n, quantity⟩ := countable (by simpa using device)
    rw [if_neg device, if_neg device, quantity]
    obtain ⟨sockets, lights, stoves⟩ := counts
    unfold countsOf
    cases item.group with
    | none => simp
    | some group =>
      simp only [Option.some.injEq]
      -- The kinds of consumers, in their order.
      iterate 4
        split
        · simp [ofCounts, Number.add, Number.times, bind, Except.bind, pure, Except.pure]
      simp

variable {items other extra : List LineItem}

/-- The consumers of rows are the sums of their shares. -/
theorem ofItems_share (countable : ∀ item ∈ items, item.Countable) :
    ofItems items = .ok (ofCounts (items.map share).sum) := by
  -- By induction on the rows, so for any counts of those before them.
  have general : ∀ counts, items.foldlM addItem (ofCounts counts) =
      .ok (ofCounts (counts + (items.map share).sum)) := by
    induction items with
    | nil =>
      intro counts
      rw [List.map_nil, List.sum_nil, add_zero]
      rfl
    | cons item rest ih =>
      intro counts
      rw [List.foldlM_cons, addItem_share (countable item List.mem_cons_self), List.map_cons,
        List.sum_cons, ← add_assoc]
      exact ih (fun other listed => countable other (List.mem_cons_of_mem _ listed)) _
  have all := general 0
  rw [zero_add] at all
  exact all

theorem share_protection {item : LineItem} (device : item.isProtection = true) : share item = 0 :=
  if_pos device

/-- The order of rows is of no account, nor are protection rows among them. -/
theorem ofItems_perm (countable : ∀ item ∈ items, item.Countable)
    (devices : ∀ item ∈ extra, item.isProtection = true) (same : other.Perm (items ++ extra)) :
    ofItems other = ofItems items := by
  have countableOther : ∀ item ∈ other, item.Countable := by
    intro item listed
    rcases List.mem_append.1 (same.mem_iff.1 listed) with product | device
    · exact countable item product
    · intro consumer
      rw [devices item device] at consumer
      cases consumer
  have none : (extra.map share).sum = 0 := List.sum_eq_zero fun counts listed => by
    obtain ⟨item, present, rfl⟩ := List.mem_map.1 listed
    exact share_protection (devices item present)
  rw [ofItems_share countableOther, ofItems_share countable, (same.map share).sum_eq, List.map_append,
    List.sum_append, none, add_zero]

/-- Rows of whole units have whole numbers of consumers. -/
theorem ofItems_counted_of_countable {consumers : Consumers}
    (countable : ∀ item ∈ items, item.Countable) (summed : ofItems items = .ok consumers) :
    consumers.Counted := by
  rw [ofItems_share countable] at summed
  cases summed
  exact ⟨_, _, _, rfl⟩

end Consumers

/-! ## Devices -/

namespace Protection

/-- Each group is required once. -/
theorem required_groups {consumers : Consumers} {devices : List (String × Number)}
    (listed : required consumers = .ok devices) : (devices.map (·.1)).Nodup := by
  unfold required devicesFor at listed
  simp only [bind_ok_iff, pure_ok_iff] at listed
  obtain ⟨_, _, _, _, _, _, _, _, rfl⟩ := listed
  refine List.Nodup.sublist (List.filter_sublist.map _) ?_
  simp only [List.map_cons, List.map_nil]
  decide

/-- The product for the devices of a group. -/
def deviceProduct? (catalog : Catalog) (preference : Preference) (group : String) : Option Product :=
  catalog.selectByQuality group (Quality.chain [preference.globalQuality]) preference.location

/-- A required device and the product for it. -/
structure Supply where
  device : String × Number
  product : Product

/-- The id of the row that the device is put in. -/
def Supply.rowId (supply : Supply) : String := lineItemId instanceId supply.product.id

def Supply.units (supply : Supply) : Nat := supply.device.2.units

variable {catalog : Catalog} {preference : Preference} {items : List LineItem} {sheet next : Sheet}
  {device : String × Number} {devices : List (String × Number)}

section Lists

variable (catalog preference)

/-- The devices with a product. -/
def supplies (devices : List (String × Number)) : List Supply :=
  devices.filterMap fun device => (deviceProduct? catalog preference device.1).map (Supply.mk device)

/-- There is no product for the device. -/
def unsupplied (device : String × Number) : Bool := (deviceProduct? catalog preference device.1).isNone

end Lists

/-- The report of a device without a product. -/
def reportOf (device : String × Number) : Diagnostic := .noProtectionProduct device.1 device.2

theorem addDevice_of_none (sheet : Sheet) (none : deviceProduct? catalog preference device.1 = none) :
    addDevice catalog preference sheet device = .ok (sheet.report (reportOf device)) := by
  unfold deviceProduct? at none
  unfold addDevice
  dsimp only
  rw [none]
  rfl

theorem addDevice_of_some (sheet : Sheet) {product : Product}
    (chosen : deviceProduct? catalog preference device.1 = some product) :
    addDevice catalog preference sheet device =
      (make placement product device.2 (.float 1.0) none true >>= sheet.add) := by
  unfold deviceProduct? at chosen
  unfold addDevice
  dsimp only
  rw [chosen]

/-! ## Rows and reports -/

/-- The rows hold the devices with a product, each row those with its id, and the others are reported in
order. -/
structure Supplies (catalog : Catalog) (preference : Preference) (devices : List (String × Number))
    (sheet : Sheet) : Prop where
  keyed : sheet.rows.KeyedBy (·.id)
  covers : ∀ k, k ∈ sheet.rows.keys ↔ k ∈ (supplies catalog preference devices).map Supply.rowId
  quantity : sheet.rows.Each fun k row => row.quantity = .int
    (((supplies catalog preference devices).filter fun supply => supply.rowId = k).map
      Supply.units).sum
  reported : sheet.diagnostics = (devices.filter (unsupplied catalog preference)).map reportOf

theorem supplies_empty : Supplies catalog preference [] .empty where
  keyed := OrderedMap.keyedBy_empty _
  covers _ := Iff.rfl
  quantity := OrderedMap.each_empty _
  reported := rfl

/-- A device without a product is reported. -/
theorem Supplies.report (held : Supplies catalog preference devices sheet)
    (none : deviceProduct? catalog preference device.1 = none) :
    Supplies catalog preference (devices ++ [device]) (sheet.report (reportOf device)) := by
  have nothing : supplies catalog preference [device] = [] := by simp [supplies, none]
  have same : supplies catalog preference (devices ++ [device]) =
      supplies catalog preference devices := by
    rw [supplies, List.filterMap_append]
    exact (congrArg (_ ++ ·) nothing).trans (List.append_nil _)
  have own : [device].filter (unsupplied catalog preference) = [device] := by simp [unsupplied, none]
  refine ⟨held.keyed, fun k => ?_, ?_, ?_⟩
  · rw [same]
    exact held.covers k
  · rw [same]
    exact held.quantity
  · rw [List.filter_append, own, List.map_append, ← held.reported]
    rfl

/-- The row of one more device is put in its place. -/
theorem Supplies.insert {row : LineItem} (held : Supplies catalog preference devices sheet)
    (supply : Supply)
    (chosen : deviceProduct? catalog preference supply.device.1 = some supply.product)
    (named : row.id = supply.rowId)
    (quantity : row.quantity = .int ((((supplies catalog preference devices).filter fun other =>
      other.rowId = supply.rowId) ++ [supply]).map Supply.units).sum) :
    Supplies catalog preference (devices ++ [supply.device])
      { sheet with rows := sheet.rows.insert supply.rowId row } := by
  have one : supplies catalog preference [supply.device] = [supply] := by simp [supplies, chosen]
  have more : supplies catalog preference (devices ++ [supply.device]) =
      supplies catalog preference devices ++ [supply] := by
    rw [supplies, List.filterMap_append]
    exact congrArg (_ ++ ·) one
  have nothing : [supply.device].filter (unsupplied catalog preference) = [] := by
    simp [unsupplied, chosen]
  refine ⟨held.keyed.insert named, fun k => ?_, ?_, ?_⟩
  · rw [more, OrderedMap.mem_keys_insert_iff, held.covers, List.map_append, List.mem_append,
      List.map_singleton, List.mem_singleton]
  · rw [more]
    exact held.quantity.insert_group (fun _ (group : List Supply) (row : LineItem) =>
      row.quantity = .int (group.map Supply.units).sum) quantity
  · rw [List.filter_append, nothing, List.append_nil]
    exact held.reported

/-- A device with a product is put in the row of its product. -/
theorem Supplies.add {product : Product} {row : LineItem}
    (held : Supplies catalog preference devices sheet)
    (chosen : deviceProduct? catalog preference device.1 = some product)
    (whole : device.2 = .int device.2.units)
    (made : make placement product device.2 (.float 1.0) none true = .ok row)
    (added : sheet.add row = .ok next) :
    Supplies catalog preference (devices ++ [device]) next := by
  obtain ⟨_, quantity, _⟩ := make_fields made
  have own : row.id = (Supply.mk device product).rowId := by
    obtain ⟨_, _, _, rfl⟩ := make_ok made
    rfl
  rw [whole] at quantity
  rcases Sheet.add_ok added with ⟨found, rfl⟩ | ⟨existing, merged, found, absorbed, rfl⟩ <;>
    rw [own] at found ⊢
  · -- No device before has this id, so the row holds this one alone.
    have absent : (Supply.mk device product).rowId ∉
        (supplies catalog preference devices).map Supply.rowId := by
      rw [← held.covers]
      exact OrderedMap.get?_eq_none_iff.1 found
    refine held.insert ⟨device, product⟩ chosen own ?_
    rw [Grouping.filter_key_eq_nil absent, quantity]
    rfl
  · obtain ⟨kept, _⟩ := merge_keeps absorbed
    have sum := (merge_adds absorbed).2
    rw [held.quantity _ _ found, quantity] at sum
    refine held.insert ⟨device, product⟩ chosen ?_ ?_
    · exact kept.id.trans (held.keyed _ _ found)
    · rw [List.map_append, List.sum_append]
      exact (Except.ok.inj sum).symm

theorem addDevice_supplies (held : Supplies catalog preference devices sheet)
    (whole : device.2 = .int device.2.units)
    (added : addDevice catalog preference sheet device = .ok next) :
    Supplies catalog preference (devices ++ [device]) next := by
  cases chosen : deviceProduct? catalog preference device.1 with
  | none =>
    rw [addDevice_of_none sheet chosen] at added
    cases added
    exact held.report chosen
  | some product =>
    rw [addDevice_of_some sheet chosen] at added
    obtain ⟨row, made, put⟩ := bind_ok_iff.1 added
    exact held.add chosen whole made put

/-- All devices are in the rows or reported. -/
theorem foldlM_supplies (whole : ∀ device ∈ devices, device.2 = .int device.2.units)
    (run : devices.foldlM (addDevice catalog preference) .empty = .ok sheet) :
    Supplies catalog preference devices sheet := by
  refine foldlM_prefix (p := fun done sheet => Supplies catalog preference done sheet) run
    supplies_empty fun done device before next start held added => ?_
  exact addDevice_supplies held (whole device (start.subset (by simp))) added

/-! ## Quantities -/

/-- The devices with a product are those that are not reported. -/
theorem map_device_supplies (devices : List (String × Number)) :
    (supplies catalog preference devices).map Supply.device =
      devices.filter fun device => !unsupplied catalog preference device := by
  unfold supplies unsupplied
  simp only [Option.not_isNone]
  exact Grouping.map_filterMap_pair (fun _ _ => rfl) devices

theorem mem_supplies {product : Product} (listed : device ∈ devices)
    (chosen : deviceProduct? catalog preference device.1 = some product) :
    ⟨device, product⟩ ∈ supplies catalog preference devices :=
  List.mem_filterMap.2 ⟨device, listed, by rw [chosen]; rfl⟩

/-- The rows together have the units of all devices with a product. -/
theorem Supplies.units (held : Supplies catalog preference devices sheet) :
    (sheet.rows.values.map (·.units)).sum =
      ((supplies catalog preference devices).map Supply.units).sum := by
  have each : sheet.rows.values.map (·.units) = sheet.rows.values.map fun row =>
      (((supplies catalog preference devices).filter fun supply => supply.rowId = row.id).map
        Supply.units).sum := by
    refine List.map_congr_left fun row present => ?_
    exact units_of_quantity (held.quantity _ _ (held.keyed.get?_of_mem present))
  have perm := Grouping.flatMap_values_perm held.keyed held.covers
  calc (sheet.rows.values.map (·.units)).sum
      = ((sheet.rows.values.flatMap fun row => (supplies catalog preference devices).filter
          fun supply => supply.rowId = row.id).map Supply.units).sum := by
        rw [each, List.map_flatMap, List.flatMap_def, List.sum_flatten, List.map_map]
        rfl
    _ = ((supplies catalog preference devices).map Supply.units).sum := (perm.map _).sum_eq

/-- The rows and the reports together have the units of all devices. -/
theorem Supplies.total (held : Supplies catalog preference devices sheet) :
    (sheet.rows.values.map (·.units)).sum +
        ((devices.filter (unsupplied catalog preference)).map (·.2.units)).sum =
      (devices.map (·.2.units)).sum := by
  have served : (supplies catalog preference devices).map Supply.units =
      (devices.filter fun device => !unsupplied catalog preference device).map (·.2.units) := by
    rw [← map_device_supplies, List.map_map]
    rfl
  have split := List.filter_append_perm (unsupplied catalog preference) devices
  rw [held.units, served, Nat.add_comm, ← List.sum_append, ← List.map_append]
  exact (split.map _).sum_eq

/-- Each device with a product belongs to exactly one row. -/
theorem Supplies.existsUnique (held : Supplies catalog preference devices sheet)
    {product : Product} (listed : device ∈ devices)
    (chosen : deviceProduct? catalog preference device.1 = some product) :
    ∃! row, row ∈ sheet.rows.values ∧ row.id = lineItemId instanceId product.id := by
  exact held.keyed.existsUnique ((held.covers _).2 (List.mem_map_of_mem (mem_supplies listed chosen)))

/-! ## Together -/

/-- The rows and the reports hold the required devices, each of them once. -/
structure Accounts (catalog : Catalog) (preference : Preference) (devices : List (String × Number))
    (sheet : Sheet) : Prop where
  groups : (devices.map (·.1)).Nodup
  whole : ∀ device ∈ devices, ∃ n : Int, 1 ≤ n ∧ device.2 = .int n
  ids : (sheet.rows.values.map (·.id)).Nodup
  isProtection : ∀ row ∈ sheet.rows.values, row.isProtection = true
  served : ∀ device ∈ devices, ∀ product,
    deviceProduct? catalog preference device.1 = some product →
      ∃! row, row ∈ sheet.rows.values ∧ row.id = lineItemId instanceId product.id
  quantity : ∀ row ∈ sheet.rows.values, row.quantity = .int
    (((supplies catalog preference devices).filter fun supply => supply.rowId = row.id).map
      Supply.units).sum
  reported : sheet.diagnostics = (devices.filter (unsupplied catalog preference)).map reportOf
  total : (sheet.rows.values.map (·.units)).sum +
    ((devices.filter (unsupplied catalog preference)).map (·.2.units)).sum =
      (devices.map (·.2.units)).sum

/-- Protection rows are marked as such. -/
theorem derive_isProtection (derived : derive catalog preference items = .ok sheet) :
    ∀ row ∈ sheet.rows.values, row.isProtection = true := by
  have merges : KeptByMerge fun row => row.isProtection = true := by
    intro target other row own _ merged
    obtain ⟨_, _, _, _, _, rfl⟩ := merge_ok merged
    exact own
  have each := derive_each merges (fun _ _ _ _ _ _ _ _ _ made => by
    obtain ⟨_, _, _, rfl⟩ := make_ok made
    rfl) derived
  exact fun row present => each.of_mem present

/-- The protection rows for rows of whole units: the rows and the reports hold the required devices, each
of them once, and for the same rows in another order, with any protection rows among them, they are the
same. -/
theorem derive_accounts (countable : ∀ item ∈ items, item.Countable)
    (derived : derive catalog preference items = .ok sheet) :
    (∃ consumers devices, Consumers.ofItems items = .ok consumers ∧ required consumers = .ok devices ∧
      Accounts catalog preference devices sheet) ∧
    ∀ other extra : List LineItem, (∀ item ∈ extra, item.isProtection = true) →
      other.Perm (items ++ extra) → derive catalog preference other = .ok sheet := by
  obtain ⟨consumers, devices, summed, listed, run⟩ := derive_ok_iff.1 derived
  have positive := required_positive (Consumers.ofItems_counted_of_countable countable summed) listed
  have whole : ∀ device ∈ devices, device.2 = .int device.2.units := by
    intro device present
    obtain ⟨n, least, own⟩ := positive device present
    rw [own]
    exact congrArg Number.int (Int.toNat_of_nonneg (by omega)).symm
  have held := foldlM_supplies whole run
  refine ⟨⟨consumers, devices, summed, listed, ?_⟩, fun other extra protection same => ?_⟩
  · exact {
      groups := required_groups listed
      whole := positive
      ids := derive_ids_nodup derived
      isProtection := derive_isProtection derived
      served := fun device present product chosen => held.existsUnique present chosen
      quantity := fun row present => held.quantity _ _ (held.keyed.get?_of_mem present)
      reported := held.reported
      total := held.total }
  · rw [← derived]
    unfold derive
    rw [Consumers.ofItems_perm countable protection same]

/-- One breaker that serves sockets and lights, and a main switch; no residual current device. -/
def sharedBreaker : Catalog where
  packages := .ofList [(1, ⟨1, "Room", none, none, none, false⟩)]
  rules := []
  products := [
    ⟨"MCB", "MCB", "pc", 8.0, some ProductGroups.breakerB16, some "Standard", .const 0.1, none, [],
      none⟩,
    ⟨"MCB", "MCB", "pc", 8.0, some ProductGroups.breakerB10, some "Standard", .const 0.1, none, [],
      none⟩,
    ⟨"LTS", "LTS", "pc", 40.0, some ProductGroups.mainSwitch, some "Standard", .const 0.3, none, [],
      none⟩]
  groups := .empty
  parameters := .empty
  links := []

/-- So many units of a product of a group. -/
def roomRow (group : String) (quantity : Int) : List LineItem :=
  let place : Placement := ⟨"1-0", .num (.int 1), "Room"⟩
  let product : Product :=
    ⟨group, group, "pc", 5.0, some group, some "Standard", .const 0.2, none, [], none⟩
  (make place product (.int quantity) (.float 1.0) none false).toOption.toList

def room : List LineItem :=
  roomRow ProductGroups.socketSingle 17 ++ roomRow ProductGroups.lightSwitch 11

theorem room_devices : (derive sharedBreaker anywhere room).toOption.map (fun sheet =>
    (sheet.rows.values.map (fun row => (row.productId, row.quantity)),
      sheet.diagnostics.map Diagnostic.message)) =
    some ([("MCB", .int 5), ("LTS", .int 1)],
      ["No product for protection group GRP-RCD-40A; 1 units skipped"]) := by decide +kernel

/-- Three breakers for sockets and two for lights share a row, and the residual current device is
reported; the lights may come first, with the devices among them. -/
theorem room_accounts : (∀ item ∈ room, item.Countable) ∧ ∃ sheet,
    derive sharedBreaker anywhere room = .ok sheet ∧
    sheet.rows.values.map (fun row => (row.productId, row.quantity)) =
      [("MCB", .int 5), ("LTS", .int 1)] ∧
    sheet.diagnostics.map Diagnostic.message =
      ["No product for protection group GRP-RCD-40A; 1 units skipped"] ∧
    (∃ consumers devices, Consumers.ofItems room = .ok consumers ∧ required consumers = .ok devices ∧
      Accounts sharedBreaker anywhere devices sheet) ∧
    derive sharedBreaker anywhere (sheet.rows.values ++ room.reverse) = .ok sheet := by
  have countable : ∀ item ∈ room, item.Countable := by
    have quantities : room.map (·.quantity) = [.int 17, .int 11] := by decide +kernel
    intro item listed _
    have quantity := List.mem_map_of_mem (f := (·.quantity)) listed
    rw [quantities] at quantity
    rcases List.mem_cons.1 quantity with own | rest
    · exact ⟨17, own⟩
    · exact ⟨11, List.mem_singleton.1 rest⟩
  obtain ⟨sheet, derived, facts⟩ := toOption_map_eq_some_iff.1 room_devices
  obtain ⟨rows, reports⟩ := Prod.mk.inj facts
  obtain ⟨⟨consumers, devices, summed, listed, accounts⟩, again⟩ := derive_accounts countable derived
  have moved : (sheet.rows.values ++ room.reverse).Perm (room ++ sheet.rows.values) :=
    List.perm_append_comm.trans ((List.reverse_perm room).append_right _)
  exact ⟨countable, sheet, derived, rows, reports, ⟨consumers, devices, summed, listed, accounts⟩,
    again _ _ accounts.isProtection moved⟩

end Protection

end WiringQuote
