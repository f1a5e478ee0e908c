import WiringQuote.Proofs.Decimal.Exact
import WiringQuote.Proofs.LineItem.Rows

/-!
# Switching merged rows

Rows of one product may have been made under different multipliers. When they are merged, their hours are
added up, but the multiplier is that of the first row; so a merged row that is switched has the hours of
the first row's multiplier for all units. Only where both multipliers have the same value, or the role
has no hours, does that come to what the two rows have when they are switched one by one.

Everything is told for hours that are computed without rounding, so that none of it is due to binary64.

* `make_hours`, `withProduct_of_hours`, `merge_hours`: the hours of a row, by the operation it comes from.
* `switch_merged_iff`: where switching a merged row keeps the hours of both rows.
-/

namespace WiringQuote

open Decimal Fallible

theorem PerRole.get_zipWith {α β γ : Type} (f : α → β → γ) (p : PerRole α) (q : PerRole β)
    (role : Role) : (p.zipWith f q).get role = f (p.get role) (q.get role) := by
  cases role <;> rfl

namespace LineItem

/-! ## Hours -/

/-- The hours of all units of a product under a multiplier. -/
def hours (product : Product) (multiplier quantity : Number) : Except Fault (PerRole Float) := do
  hoursFor (← unitHours product multiplier) quantity

theorem hours_ok_iff {product : Product} {multiplier quantity : Number} {total : PerRole Float} :
    hours product multiplier quantity = .ok total ↔
      ∃ perUnit, unitHours product multiplier = .ok perUnit ∧
        hoursFor perUnit quantity = .ok total :=
  bind_ok_iff

theorem inRange_of_hours {product : Product} {multiplier quantity : Number} {total : PerRole Float}
    (counted : hours product multiplier quantity = .ok total) : ∃ x, quantity.toFloat = .ok x := by
  obtain ⟨_, _, units⟩ := hours_ok_iff.1 counted
  obtain ⟨x, inRange, _⟩ := bind_ok_iff.1 units
  exact ⟨x, inRange⟩

/-- Products with the same hours per unit have the same hours. -/
theorem hours_congr {product other : Product} (same : product.hoursFor = other.hoursFor)
    (multiplier quantity : Number) :
    hours product multiplier quantity = hours other multiplier quantity := by
  unfold hours unitHours
  rw [same]

theorem make_hours {place : Placement} {product : Product} {quantity multiplier : Number}
    {calculated : Option Float} {isProtection : Bool} {row : LineItem}
    (made : make place product quantity multiplier calculated isProtection = .ok row) :
    hours product multiplier quantity = .ok row.hoursTotal := by
  unfold make at made
  simp only [bind_ok_iff] at made
  obtain ⟨perUnit, rates, total, counted, made⟩ := made
  refine hours_ok_iff.2 ⟨perUnit, rates, ?_⟩
  cases calculated with
  | none =>
    obtain ⟨_, _, same⟩ := bind_ok_iff.1 made
    cases same
    exact counted
  | some x =>
    cases made
    exact counted

/-- A row can be switched to a product if there are hours for it. -/
theorem withProduct_of_hours {item : LineItem} {product : Product} {total : PerRole Float}
    (counted : hours product item.hoursMultiplier item.quantity = .ok total) :
    ∃ row, item.withProduct product = .ok row ∧ row.hoursTotal = total := by
  obtain ⟨perUnit, rates, units⟩ := hours_ok_iff.1 counted
  unfold withProduct
  simp only [bind_ok_iff, pure_ok_iff]
  exact ⟨_, ⟨perUnit, rates, total, units, rfl⟩, rfl⟩

theorem merge_hours {target other row : LineItem} (merged : target.merge other = .ok row) :
    row.hoursTotal = target.hoursTotal.zipWith (· + ·) other.hoursTotal := by
  unfold merge at merged
  simp only [bind_ok_iff, pure_ok_iff] at merged
  obtain ⟨_, _, _, _, rfl⟩ := merged
  rfl

/-! ## Exact hours -/

/-- The hours are computed without rounding, for one unit and for all of them. -/
def HoursExact (product : Product) (multiplier : Number) (quantity : Int) (total : PerRole Float) :
    Prop :=
  ∃ perUnit, unitHours product multiplier = .ok perUnit ∧
    hoursFor perUnit (.int quantity) = .ok total ∧ ∀ role,
      Exactly (perUnit.get role) (value (product.hoursFor role) * multiplier.value) ∧
      Exactly (total.get role) (value (product.hoursFor role) * multiplier.value * quantity)

theorem HoursExact.hours {product : Product} {multiplier : Number} {quantity : Int}
    {total : PerRole Float} (exact : HoursExact product multiplier quantity total) :
    hours product multiplier (.int quantity) = .ok total := by
  obtain ⟨perUnit, rates, counted, _⟩ := exact
  exact hours_ok_iff.2 ⟨perUnit, rates, counted⟩

theorem HoursExact.total {product : Product} {multiplier : Number} {quantity : Int}
    {total : PerRole Float} (exact : HoursExact product multiplier quantity total) (role : Role) :
    Exactly (total.get role) (value (product.hoursFor role) * multiplier.value * quantity) := by
  obtain ⟨_, _, _, exactly⟩ := exact
  exact (exactly role).2

/-- All hours of a product are computed without rounding: those of two rows, those of all their units
under the first multiplier, and the sum of the two. -/
structure ExactTogether (product : Product) (multiplier other : Number) (quantity more : Int)
    (first second whole : PerRole Float) : Prop where
  ofFirst : HoursExact product multiplier quantity first
  ofSecond : HoursExact product other more second
  ofWhole : HoursExact product multiplier (quantity + more) whole
  sum : ∀ role,
    Exactly (first.get role + second.get role) (value (first.get role) + value (second.get role))

/-- Under the first multiplier alone, all units have the hours of both rows only if the multipliers are
equal, or there are no hours. -/
theorem blended_iff {rate multiplier other : ℚ} {quantity more : Int} (some : more ≠ 0) :
    rate * multiplier * (quantity + more : Int) = rate * multiplier * quantity + rate * other * more ↔
      rate = 0 ∨ multiplier = other := by
  have units : (more : ℚ) ≠ 0 := Int.cast_ne_zero.2 some
  have difference : rate * multiplier * (quantity + more : Int) -
      (rate * multiplier * quantity + rate * other * more) = rate * (multiplier - other) * more := by
    push_cast
    ring
  rw [← sub_eq_zero, difference, mul_eq_zero, mul_eq_zero, sub_eq_zero, or_iff_left units]

section Merged

variable {here there : Placement} {own product : Product} {multiplier other : Number}
  {quantity more : Int} {calculated calculatedOther : Option Float}
  {isProtection isProtectionOther : Bool} {a b : LineItem} {first second whole : PerRole Float}

/-- Two rows that are made of a product under any multipliers, and a product for which all hours are
computed without rounding: a role has the same hours whether the rows are merged and then switched to the
product, or switched and then merged, exactly if the product takes no hours of the role or both
multipliers have the same value. And where the product takes the same hours per unit as that of the rows,
switching leaves the hours of the merged row as they are under the same condition. -/
theorem switch_merged_iff
    (madeA : make here own (.int quantity) multiplier calculated isProtection = .ok a)
    (madeB : make there own (.int more) other calculatedOther isProtectionOther = .ok b)
    (some : 1 ≤ more)
    (exact : ExactTogether product multiplier other quantity more first second whole) :
    ∃ merged switched switchedA switchedB reunited,
      a.merge b = .ok merged ∧ merged.withProduct product = .ok switched ∧
      a.withProduct product = .ok switchedA ∧ b.withProduct product = .ok switchedB ∧
      switchedA.merge switchedB = .ok reunited ∧
      (∀ role, (switched.hoursTotal.get role == reunited.hoursTotal.get role) = true ↔
        value (product.hoursFor role) = 0 ∨ multiplier.value = other.value) ∧
      (product.hoursFor = own.hoursFor →
        ∀ role, (switched.hoursTotal.get role == merged.hoursTotal.get role) = true ↔
          value (product.hoursFor role) = 0 ∨ multiplier.value = other.value) := by
  obtain ⟨_, quantityA, multiplierA⟩ := make_fields madeA
  obtain ⟨_, quantityB, multiplierB⟩ := make_fields madeB
  have sum : a.quantity.add b.quantity = .ok (.int (quantity + more)) := by
    rw [quantityA, quantityB]
    rfl
  obtain ⟨merged, merges⟩ := exists_merge_iff.2 ⟨_, sum, inRange_of_hours exact.ofWhole.hours⟩
  obtain ⟨quantityM, multiplierM⟩ : merged.quantity = .int (quantity + more) ∧
      merged.hoursMultiplier = multiplier := by
    have added := (merge_adds merges).2
    obtain ⟨_, _, _, _, _, rfl⟩ := merge_ok merges
    exact ⟨Except.ok.inj (added.symm.trans sum), multiplierA⟩
  have hoursA : hours product a.hoursMultiplier a.quantity = .ok first := by
    rw [multiplierA, quantityA, exact.ofFirst.hours]
  have hoursB : hours product b.hoursMultiplier b.quantity = .ok second := by
    rw [multiplierB, quantityB, exact.ofSecond.hours]
  have hoursM : hours product merged.hoursMultiplier merged.quantity = .ok whole := by
    rw [multiplierM, quantityM, exact.ofWhole.hours]
  obtain ⟨switched, switches, totalM⟩ := withProduct_of_hours hoursM
  obtain ⟨switchedA, switchesA, totalA⟩ := withProduct_of_hours hoursA
  obtain ⟨switchedB, switchesB, totalB⟩ := withProduct_of_hours hoursB
  obtain ⟨reunited, reunites⟩ : ∃ row, switchedA.merge switchedB = .ok row := by
    obtain ⟨_, _, rfl⟩ := withProduct_ok switchesA
    obtain ⟨_, _, rfl⟩ := withProduct_ok switchesB
    exact exists_merge_iff.2 ⟨_, sum, inRange_of_hours exact.ofWhole.hours⟩
  -- The hours of all units under the first multiplier, against those of both rows.
  have blended : ∀ role, (whole.get role == first.get role + second.get role) = true ↔
      value (product.hoursFor role) = 0 ∨ multiplier.value = other.value := by
    intro role
    rw [(exact.ofWhole.total role).beq_iff (exact.sum role), (exact.ofFirst.total role).value,
      (exact.ofSecond.total role).value]
    exact blended_iff (by omega)
  refine ⟨merged, switched, switchedA, switchedB, reunited, merges, switches, switchesA, switchesB,
    reunites, fun role => ?_, fun same role => ?_⟩
  · rw [merge_hours reunites, PerRole.get_zipWith, totalM, totalA, totalB]
    exact blended role
  · have ownA : a.hoursTotal = first := by
      have own := make_hours madeA
      rw [← hours_congr same, exact.ofFirst.hours] at own
      exact (Except.ok.inj own).symm
    have ownB : b.hoursTotal = second := by
      have own := make_hours madeB
      rw [← hours_congr same, exact.ofSecond.hours] at own
      exact (Except.ok.inj own).symm
    rw [merge_hours merges, PerRole.get_zipWith, totalM, ownA, ownB]
    exact blended role

end Merged

/-! ## Sockets under two multipliers -/

/-- A socket that takes the journeyman a quarter of an hour. -/
def quarterSocket (id : String) : Product :=
  ⟨id, id, "pc", 5.0, some ProductGroups.socketSingle, some "Standard", ⟨0.0, 0.25, 0.0⟩, none, [],
    none⟩

/-- Sockets of a room. -/
def socketRow (quantity : Int) (multiplier : Float) : Except Fault LineItem :=
  make ⟨"1-0", .num (.int 1), "Room"⟩ (quarterSocket "SKT") (.int quantity) (.float multiplier) none
    false

theorem quarterSocket_exact : ExactTogether (quarterSocket "SKT-2") (.float 1.0) (.float 2.0) 4 2
    ⟨0.0, 1.0, 0.0⟩ ⟨0.0, 1.0, 0.0⟩ ⟨0.0, 1.5, 0.0⟩ where
  ofFirst := by
    refine ⟨⟨0.0, 0.25, 0.0⟩, toOption_eq_some_iff.1 (by decide +kernel),
      toOption_eq_some_iff.1 (by decide +kernel), fun role => ?_⟩
    cases role <;> decide +kernel
  ofSecond := by
    refine ⟨⟨0.0, 0.5, 0.0⟩, toOption_eq_some_iff.1 (by decide +kernel),
      toOption_eq_some_iff.1 (by decide +kernel), fun role => ?_⟩
    cases role <;> decide +kernel
  ofWhole := by
    refine ⟨⟨0.0, 0.25, 0.0⟩, toOption_eq_some_iff.1 (by decide +kernel),
      toOption_eq_some_iff.1 (by decide +kernel), fun role => ?_⟩
    cases role <;> decide +kernel
  sum := by
    intro role
    cases role <;> decide +kernel

/-- Four sockets of a quarter of an hour and two that take twice as long are two hours of work. Switched
to a socket that takes as long, the merged row has one and a half hours, though everything is exact. -/
theorem quarterSockets_lost : ∃ a b merged switched switchedA switchedB reunited,
    socketRow 4 1.0 = .ok a ∧ socketRow 2 2.0 = .ok b ∧
    ExactTogether (quarterSocket "SKT-2") (.float 1.0) (.float 2.0) 4 2
      ⟨0.0, 1.0, 0.0⟩ ⟨0.0, 1.0, 0.0⟩ ⟨0.0, 1.5, 0.0⟩ ∧
    (quarterSocket "SKT-2").hoursFor = (quarterSocket "SKT").hoursFor ∧
    a.merge b = .ok merged ∧ merged.withProduct (quarterSocket "SKT-2") = .ok switched ∧
    a.withProduct (quarterSocket "SKT-2") = .ok switchedA ∧
    b.withProduct (quarterSocket "SKT-2") = .ok switchedB ∧
    switchedA.merge switchedB = .ok reunited ∧
    merged.hoursTotal.get .geselle = 2.0 ∧ switched.hoursTotal.get .geselle = 1.5 ∧
    reunited.hoursTotal.get .geselle = 2.0 := by
  have shown : (do
      let a ← socketRow 4 1.0
      let b ← socketRow 2 2.0
      let merged ← a.merge b
      let switched ← merged.withProduct (quarterSocket "SKT-2")
      let switchedA ← a.withProduct (quarterSocket "SKT-2")
      let switchedB ← b.withProduct (quarterSocket "SKT-2")
      let reunited ← switchedA.merge switchedB
      return [merged.hoursTotal.geselle, switched.hoursTotal.geselle, reunited.hoursTotal.geselle] :
        Except Fault (List Float)).toOption = some [2.0, 1.5, 2.0] := by decide +kernel
  have run := toOption_eq_some_iff.1 shown
  simp only [bind_ok_iff, pure_ok_iff, List.cons.injEq] at run
  obtain ⟨a, madeA, b, madeB, merged, merges, switched, switches, switchedA, switchesA, switchedB,
    switchesB, reunited, reunites, hoursM, hoursS, hoursR, _⟩ := run
  exact ⟨a, b, merged, switched, switchedA, switchedB, reunited, madeA, madeB, quarterSocket_exact,
    rfl, merges, switches, switchesA, switchesB, reunites, hoursM, hoursS, hoursR⟩

/-- The hours of the sockets are exact, and differ as the multipliers do. -/
theorem quarterSockets_blended : ∃ a b, socketRow 4 1.0 = .ok a ∧ socketRow 2 2.0 = .ok b ∧
    (1 : Int) ≤ 2 ∧
    ExactTogether (quarterSocket "SKT-2") (.float 1.0) (.float 2.0) 4 2
      ⟨0.0, 1.0, 0.0⟩ ⟨0.0, 1.0, 0.0⟩ ⟨0.0, 1.5, 0.0⟩ ∧
    ∃ merged switched switchedA switchedB reunited,
      a.merge b = .ok merged ∧ merged.withProduct (quarterSocket "SKT-2") = .ok switched ∧
      a.withProduct (quarterSocket "SKT-2") = .ok switchedA ∧
      b.withProduct (quarterSocket "SKT-2") = .ok switchedB ∧
      switchedA.merge switchedB = .ok reunited ∧
      (∀ role, (switched.hoursTotal.get role == reunited.hoursTotal.get role) = true ↔
        value ((quarterSocket "SKT-2").hoursFor role) = 0 ∨
          (Number.float 1.0).value = (Number.float 2.0).value) ∧
      ∀ role, (switched.hoursTotal.get role == merged.hoursTotal.get role) = true ↔
        value ((quarterSocket "SKT-2").hoursFor role) = 0 ∨
          (Number.float 1.0).value = (Number.float 2.0).value := by
  obtain ⟨a, madeA⟩ : ∃ a, socketRow 4 1.0 = .ok a := isOk_iff.1 (by decide +kernel)
  obtain ⟨b, madeB⟩ : ∃ b, socketRow 2 2.0 = .ok b := isOk_iff.1 (by decide +kernel)
  obtain ⟨merged, switched, switchedA, switchedB, reunited, merges, switches, switchesA, switchesB,
    reunites, apart, same⟩ := switch_merged_iff madeA madeB (by decide) quarterSocket_exact
  exact ⟨a, b, madeA, madeB, by decide, quarterSocket_exact, merged, switched, switchedA, switchedB,
    reunited, merges, switches, switchesA, switchesB, reunites, apart, same rfl⟩

end LineItem

end WiringQuote
