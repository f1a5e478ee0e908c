import WiringQuote.Enclosure
import WiringQuote.Protection.Derive
import WiringQuote.Proofs.LineItem.Units

/-!
# Devices of whole units

What whole rows require is whole again: breakers and residual current devices are counted from
consumers, and there are never more groups than pieces. So many rows of units require at most four times
as many devices and the main switch.

* `derive_total`: the protection rows for whole rows.
* `resized_total`: the enclosure for whole rows.
-/

namespace WiringQuote

open Decimal Fallible LineItem

variable {item : LineItem} {items : List LineItem} {n : Nat}

/-! ## Consumers -/

namespace Consumers

/-- The consumers are whole numbers, at most so many together. -/
def Within (consumers : Consumers) (n : Nat) : Prop :=
  ∃ sockets lights stoves : Nat,
    consumers = ⟨.int sockets, .int lights, .int stoves⟩ ∧ sockets + lights + stoves ≤ n

theorem Within.mono {consumers : Consumers} {k : Nat} (within : consumers.Within n) (more : n ≤ k) :
    consumers.Within k := by
  obtain ⟨sockets, lights, stoves, same, most⟩ := within
  exact ⟨sockets, lights, stoves, same, most.trans more⟩

/-- A row has at most twice as many consumers as units. -/
theorem addItem_total {consumers : Consumers} (within : consumers.Within n) (whole : item.Whole) :
    ∃ next, consumers.addItem item = .ok next ∧ next.Within (n + 2 * item.units) := by
  obtain ⟨sockets, lights, stoves, rfl, most⟩ := within
  have room : sockets + lights + stoves ≤ n + 2 * item.units := by omega
  unfold addItem
  rw [whole.quantity]
  split
  · exact ⟨_, rfl, sockets, lights, stoves, rfl, room⟩
  split
  · exact ⟨_, rfl, sockets, lights, stoves, rfl, room⟩
  split
  · exact ⟨_, rfl, sockets + item.units, lights, stoves, rfl, by omega⟩
  split
  · exact ⟨_, rfl, sockets + item.units * 2, lights, stoves, rfl, by omega⟩
  split
  · exact ⟨_, rfl, sockets, lights + item.units, stoves, rfl, by omega⟩
  split
  · exact ⟨_, rfl, sockets, lights, stoves + item.units, rfl, by omega⟩
  · exact ⟨_, rfl, sockets, lights, stoves, rfl, room⟩

theorem ofItems_total (within : LineItem.Within items n) :
    ∃ consumers, ofItems items = .ok consumers ∧ consumers.Within (2 * n) := by
  have start : none.Within 0 := ⟨0, 0, 0, rfl, Nat.le_refl 0⟩
  obtain ⟨consumers, summed, most⟩ := foldlM_within (p := Within) (c := fun item => 2 * item.units)
    start (Nat.lt_succ_self _) fun item present consumers k counted _ =>
      addItem_total counted (within.whole item present)
  refine ⟨consumers, summed, most.mono ?_⟩
  rw [List.sum_map_mul_left]
  exact Nat.mul_le_mul_left 2 within.units

end Consumers

/-! ## Devices -/

namespace Protection

/-- The devices are whole numbers, at most so many together. -/
structure Within (devices : List (String × Number)) (n : Nat) : Prop where
  whole : ∀ device ∈ devices, device.2 = .int device.2.units
  units : (devices.map (·.2.units)).sum ≤ n

theorem Within.filter {devices : List (String × Number)} (within : Within devices n)
    (keep : String × Number → Bool) : Within (devices.filter keep) n where
  whole := fun device present => within.whole device (List.mem_of_mem_filter present)
  units := (List.Sublist.sum_le_sum (List.filter_sublist.map _) fun _ _ => Nat.zero_le _).trans
    within.units

theorem devicesFor_total {sockets lights stoves : Nat}
    (small : sockets + lights + stoves < 8 * unitLimit) :
    ∃ devices, devicesFor sockets lights (.int stoves) = .ok devices ∧
      Within devices (2 * (sockets + lights + stoves) + 1) := by
  have total : (Number.int (sockets + lights)).add (.int stoves) =
      .ok (.int (sockets + lights + stoves : Nat)) := rfl
  obtain ⟨residual, counted, most⟩ :=
    ceilQuotient_total (show 2 ≤ breakersPerResidualCurrent by decide) small
  obtain ⟨main, one, same⟩ : ∃ main : Nat, main ≤ 1 ∧
      (if (Number.int (sockets + lights + stoves : Nat)).isPositive then 1 else 0 : Int) = main := by
    split
    · exact ⟨1, Nat.le_refl 1, rfl⟩
    · exact ⟨0, Nat.zero_le 1, rfl⟩
  refine ⟨_, bind_ok_iff.2 ⟨_, total, bind_ok_iff.2 ⟨_, counted, rfl⟩⟩, ?_⟩
  rw [same]
  refine Within.filter ⟨fun device present => ?_, ?_⟩ _
  · simp only [List.mem_cons, List.not_mem_nil, or_false] at present
    rcases present with rfl | rfl | rfl | rfl | rfl <;> rfl
  · show sockets + (lights + (stoves + (residual + (main + 0)))) ≤ _
    omega

/-- The devices for so many consumers. -/
theorem required_total {consumers : Consumers} (within : consumers.Within n)
    (small : n < 8 * unitLimit) :
    ∃ devices, required consumers = .ok devices ∧ Within devices (2 * n + 1) := by
  obtain ⟨sockets, lights, stoves, rfl, most⟩ := within
  have fewSockets : sockets < 8 * unitLimit := by omega
  have fewLights : lights < 8 * unitLimit := by omega
  obtain ⟨forSockets, socketsCounted, _⟩ :=
    ceilQuotient_total (show 2 ≤ socketsPerBreaker by decide) fewSockets
  obtain ⟨forLights, lightsCounted, _⟩ :=
    ceilQuotient_total (show 2 ≤ lightsPerBreaker by decide) fewLights
  have few : forSockets + forLights + stoves < 8 * unitLimit := by omega
  obtain ⟨devices, listed, within⟩ := devicesFor_total few
  refine ⟨devices, ?_, ?_⟩
  · exact bind_ok_iff.2 ⟨_, socketsCounted, bind_ok_iff.2 ⟨_, lightsCounted, listed⟩⟩
  · exact ⟨within.whole, within.units.trans (by omega)⟩

theorem addDevice_total {catalog : Catalog} {preference : Preference} {sheet : Sheet}
    {device : String × Number} (within : LineItem.Within sheet.rows.values n)
    (whole : device.2 = .int device.2.units) (small : n + device.2.units < 8 * unitLimit) :
    ∃ next, addDevice catalog preference sheet device = .ok next ∧
      LineItem.Within next.rows.values (n + device.2.units) := by
  unfold addDevice
  dsimp only
  split
  · exact ⟨_, rfl, within.mono (Nat.le_add_right _ _)⟩
  · rename_i product _
    obtain ⟨row, made, own, holds⟩ := make_total (n := device.2.units) (by omega) placement product
      1.0 none true
    obtain ⟨next, added, after⟩ := Sheet.add_total within own (by omega)
    rw [whole]
    exact ⟨next, bind_ok_iff.2 ⟨row, made, added⟩, holds ▸ after⟩

/-- The protection rows for whole rows. -/
theorem derive_total (within : LineItem.Within items n) (small : 4 * n + 1 < 8 * unitLimit)
    (catalog : Catalog) (preference : Preference) :
    ∃ sheet, derive catalog preference items = .ok sheet ∧
      LineItem.Within sheet.rows.values (4 * n + 1) := by
  obtain ⟨consumers, counted, most⟩ := Consumers.ofItems_total within
  obtain ⟨devices, listed, whole⟩ := required_total most (by omega)
  have start : LineItem.Within Sheet.empty.rows.values 0 := within_empty
  have fewer := whole.units
  have room : (devices.map (·.2.units)).sum < 8 * unitLimit := by omega
  obtain ⟨sheet, added, holds⟩ := foldlM_within
    (p := fun s k => LineItem.Within (Sheet.rows s).values k) start room
    fun device present sheet k held less => addDevice_total held (whole.whole device present) less
  refine ⟨sheet, bind_ok_iff.2 ⟨consumers, counted, bind_ok_iff.2 ⟨devices, listed, added⟩⟩,
    holds.mono (by omega)⟩

end Protection

/-! ## The enclosure -/

/-- Whole numbers have a whole sum. -/
theorem Number.sum_total {numbers : List Number} (whole : ∀ x ∈ numbers, x = .int x.units) :
    Number.sum numbers = .ok (.int (numbers.map Number.units).sum) := by
  -- By induction on the numbers, so for any sum of those before them.
  have general : ∀ before : Nat, numbers.foldlM Number.add (.int before) =
      .ok (.int (before + (numbers.map Number.units).sum : Nat)) := by
    induction numbers with
    | nil => exact fun _ => rfl
    | cons x rest ih =>
      intro before
      have added : (Number.int before).add x = .ok (.int (before + x.units : Nat)) := by
        rw [whole x List.mem_cons_self]
        rfl
      rw [List.foldlM_cons, added, List.map_cons, List.sum_cons, ← Nat.add_assoc]
      exact ih (fun y inRest => whole y (List.mem_cons_of_mem _ inRest)) _
  have all := general 0
  rw [Nat.zero_add] at all
  exact all

namespace Enclosure

theorem breakerCount_total (within : LineItem.Within items n) :
    ∃ count : Nat, breakerCount items = .ok (.int count) ∧ count ≤ n := by
  have breakers := within.sublist (List.filter_sublist (p := fun item =>
    ProductGroups.isIn ProductGroups.breakers item.group))
  refine ⟨_, Number.sum_total fun x present => ?_, ?_⟩
  · obtain ⟨item, kept, rfl⟩ := List.mem_map.1 present
    exact (breakers.whole item kept).quantity
  · rw [List.map_map]
    exact breakers.units

theorem slotsFor_total (small : n < 8 * unitLimit) : ∃ slots, slotsFor (.int n) = .ok slots := by
  unfold slotsFor
  split
  · exact ⟨_, rfl⟩
  · obtain ⟨residual, counted, _⟩ :=
      ceilQuotient_total (show 2 ≤ Protection.breakersPerResidualCurrent by decide) small
    exact ⟨_, bind_ok_iff.2 ⟨_, counted, rfl⟩⟩

/-- The enclosure for whole rows. -/
theorem resized_total {protection : List LineItem} {k : Nat} (within : LineItem.Within items n)
    (devices : LineItem.Within protection k) (small : n < 8 * unitLimit) (few : k < 8 * unitLimit)
    (catalog : Catalog) (preference : Preference) :
    ∃ switched, resized catalog preference items protection = .ok switched := by
  obtain ⟨breakers, counted, most⟩ := breakerCount_total devices
  refine bind_total ⟨_, counted⟩ fun count done => ?_
  rw [counted] at done
  cases done
  split
  · exact ⟨_, rfl⟩
  · rename_i current found
    split
    · exact ⟨_, rfl⟩
    · refine bind_total (slotsFor_total (by omega)) fun slots _ => ?_
      dsimp only
      split
      · exact ⟨_, rfl⟩
      · rename_i product _
        split
        · exact ⟨_, rfl⟩
        · have present : current ∈ items := List.mem_of_find?_eq_some found
          obtain ⟨row, switched, _⟩ := withProduct_total (within.whole current present)
            (Nat.lt_of_le_of_lt (within.units_le present) small) product
          exact bind_total ⟨row, switched⟩ fun _ _ => ⟨_, rfl⟩

end Enclosure

end WiringQuote
