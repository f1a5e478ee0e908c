import WiringQuote.Proofs.Decimal.Groups
import WiringQuote.Proofs.Protection.Units
import WiringQuote.Proofs.Session.Made
import WiringQuote.Proofs.Sizing

/-!
# The tier of an enclosure

The enclosure row is switched to a product of the least tier that holds the breakers. The count of
residual current devices comes from a quotient in binary64; where it is not exact, the breakers alone
are more than the largest tier holds. Whatever rows there are, one of them is switched or none, and the
others stay in their places.

* `tierFor_isTier`: the tier that is chosen is the least one for the exact count of slots.
* `resized_resizes`: what becomes of the first enclosure row, one case for each way.
* `resize_sizes`: the rows and the reports; rows that were made are sized without a fault.
-/

namespace WiringQuote

open Decimal Fallible LineItem

namespace Enclosure

/-! ## Tiers -/

/-- The slots for so many breakers: one for each, one for the surge protection, and three for each
residual current device. -/
def slotsOf (breakers : Nat) : Nat := breakers + 1 + 3 * (breakers ⌈/⌉ 6)

/-- The least of the tiers that holds the slots; the largest if none does. -/
def IsTier (slots : Nat) (tier : Int) : Prop :=
  let all : List Int := [12, 24, 36, 48, 60]
  tier ∈ all ∧ slots ≤ tier ∧ (∀ other ∈ all, slots ≤ other → tier ≤ other) ∨
    (∀ other ∈ all, other < slots) ∧ tier = 60

instance (slots : Nat) (tier : Int) : Decidable (IsTier slots tier) := by
  unfold IsTier
  infer_instance

/-- Among ascending numbers, the first that is large enough is the least. -/
theorem find?_least {k x : Int} {xs : List Int} (ascending : xs.Pairwise (· < ·))
    (found : xs.find? (fun x => decide (k ≤ x)) = some x) :
    ∀ other ∈ xs, k ≤ other → x ≤ other := by
  obtain ⟨_, before, after, rfl, small⟩ := List.find?_eq_some_iff_append.1 found
  intro other listed enough
  rcases List.mem_append.1 listed with earlier | later
  · simpa [enough] using small other earlier
  · rcases List.mem_cons.1 later with rfl | behind
    · exact Int.le_refl _
    · exact (List.rel_of_pairwise_cons (List.pairwise_append.1 ascending).2.1 behind).le

theorem tierFor_int {slots : Nat} : IsTier slots (tierFor (.int slots)) := by
  unfold tierFor
  cases found : tiers.find? (Number.int slots).atMost with
  | some tier =>
    have enough := List.find?_some found
    exact .inl ⟨List.mem_of_find?_eq_some found, of_decide_eq_true enough,
      find?_least (by decide) found⟩
  | none =>
    refine .inr ⟨fun other listed => ?_, rfl⟩
    have small := List.find?_eq_none.1 found other listed
    exact Int.not_le.1 fun enough => small (decide_eq_true enough)

/-- More slots than the largest tier has. -/
theorem isTier_beyond {slots : Nat} {tier : Int} (beyond : 60 < slots) :
    IsTier slots tier ↔ tier = 60 := by
  have all : ∀ other ∈ tiers, other ≤ 60 := by decide
  constructor
  · rintro (⟨listed, enough, _⟩ | ⟨_, same⟩)
    · have most := all tier listed
      omega
    · exact same
  · rintro rfl
    refine .inr ⟨fun other listed => ?_, rfl⟩
    have most := all other listed
    omega

/-- A tier for the slots is the only one. -/
theorem IsTier.unique {slots : Nat} {tier other : Int} (isTier : IsTier slots tier)
    (isOther : IsTier slots other) : tier = other := by
  rcases isTier with ⟨listed, enough, least⟩ | ⟨small, rfl⟩
  · rcases isOther with ⟨listedToo, enoughToo, leastToo⟩ | ⟨small, rfl⟩
    · exact Int.le_antisymm (least other listedToo enoughToo) (leastToo tier listed enough)
    · exact absurd (small tier listed) (Int.not_lt.2 enough)
  · rcases isOther with ⟨listedToo, enoughToo, _⟩ | ⟨_, rfl⟩
    · exact absurd (small other listedToo) (Int.not_lt.2 enoughToo)
    · rfl

/-- The tier that is chosen for some breakers is the least one for the exact count of slots. -/
theorem tierFor_isTier {breakers : Nat} {slots : Number} (some : 0 < breakers)
    (needed : slotsFor (.int breakers) = .ok slots) : IsTier (slotsOf breakers) (tierFor slots) := by
  unfold slotsFor at needed
  rw [if_neg (by simp [Number.atMost]; omega)] at needed
  obtain ⟨residual, counted, same⟩ := bind_ok_iff.1 needed
  cases same
  by_cases few : breakers < 2 ^ 53
  · have exact : ceilQuotient breakers 6 = .ok (breakers ⌈/⌉ 6 : Nat) :=
      ceilQuotient_exact (by decide) (by decide) few
    cases exact.symm.trans counted
    have slots : ((breakers : Int) + 1 + (breakers ⌈/⌉ 6 : Nat) * slotsPerResidualCurrent) =
        (slotsOf breakers : Nat) := by
      unfold slotsOf slotsPerResidualCurrent
      push_cast
      ring
    rw [slots]
    exact tierFor_int
  · have nonneg := ceilQuotient_nonneg counted
    -- The breakers alone are too many, whatever their quotient is rounded to.
    obtain ⟨total, slots, beyond⟩ : ∃ total : Nat,
        (breakers : Int) + 1 + residual * slotsPerResidualCurrent = total ∧ 60 < total := by
      refine ⟨((breakers : Int) + 1 + residual * slotsPerResidualCurrent).toNat, ?_, ?_⟩ <;>
        unfold slotsPerResidualCurrent <;> omega
    rw [slots, isTier_beyond (by unfold slotsOf; omega)]
    exact (isTier_beyond beyond).1 tierFor_int

/-! ## Breakers -/

/-- The units of breakers among the protection rows. -/
def breakerUnits (protection : List LineItem) : Nat :=
  ((protection.filter fun item => ProductGroups.isIn ProductGroups.breakers item.group).map
    (·.units)).sum

/-- The devices are counted in whole units, at least one of each. -/
def CountedInUnits (protection : List LineItem) : Prop :=
  ∀ device ∈ protection, ∃ k : Int, 1 ≤ k ∧ device.quantity = .int k

theorem breakerCount_counted {protection : List LineItem} (counted : CountedInUnits protection) :
    breakerCount protection = .ok (.int (breakerUnits protection)) := by
  have whole : ∀ x ∈ (protection.filter fun item =>
      ProductGroups.isIn ProductGroups.breakers item.group).map (·.quantity), x = .int x.units := by
    intro x listed
    obtain ⟨device, kept, rfl⟩ := List.mem_map.1 listed
    obtain ⟨k, some, quantity⟩ := counted device (List.mem_of_mem_filter kept)
    rw [quantity]
    exact congrArg Number.int (Int.toNat_of_nonneg (by omega)).symm
  unfold breakerCount breakerUnits
  rw [Number.sum_total whole, List.map_map]
  rfl

/-! ## Enclosures that fit -/

variable {catalog : Catalog} {preference : Preference} {items protection : List LineItem} {n : Nat}

/-- The product is listed as an enclosure of the tier, and available at the location. -/
structure Suits (catalog : Catalog) (location : Option String) (tier : Int) (product : Product) :
    Prop where
  listed : product ∈ catalog.products
  group : product.group = some ProductGroups.enclosure
  available : product.Available location
  slots : product.moduleSlots = some tier

theorem mem_ofTier_iff {location : Option String} {tier : Int} {product : Product} :
    product ∈ ofTier catalog location tier ↔ Suits catalog location tier product := by
  unfold ofTier Catalog.availableInGroup Catalog.productsInGroup
  simp only [List.mem_filter, decide_eq_true_eq, Product.isAvailableAt_iff]
  constructor
  · rintro ⟨⟨⟨listed, group⟩, available⟩, slots⟩
    exact ⟨listed, group, available, slots⟩
  · rintro ⟨listed, group, available, slots⟩
    exact ⟨⟨⟨listed, group⟩, available⟩, slots⟩

/-- There is no product for a tier exactly if none suits. -/
theorem productFor_none_iff {tier : Int} {quality : Option String} :
    productFor catalog preference tier quality = none ↔
      ∀ product, ¬ Suits catalog preference.location tier product := by
  simp only [← mem_ofTier_iff, ← List.eq_nil_iff_forall_not_mem]
  constructor
  · intro missing
    unfold productFor at missing
    dsimp only at missing
    rw [← Option.or_eq_orElse, Option.or_eq_none_iff, List.head?_eq_none_iff] at missing
    exact missing.2
  · intro empty
    refine Option.eq_none_iff_forall_not_mem.2 fun product chosen => ?_
    have listed := productFor_mem chosen
    rw [empty] at listed
    cases listed

/-! ## The first enclosure -/

/-- What becomes of the first enclosure row: the copy that takes its place, and what is reported. -/
inductive Resizes (catalog : Catalog) (preference : Preference) (items : List LineItem) (n : Nat) :
    Option LineItem → List Diagnostic → Prop where
  | idle (nothing : n = 0 ∨ row? items = none) : Resizes catalog preference items n none []
  | missing {current : LineItem} {slots : Number} (breakers : 0 < n) (first : row? items = some current)
      (needed : slotsFor (.int n) = .ok slots)
      (missing : productFor catalog preference (tierFor slots) current.quality = none) :
      Resizes catalog preference items n none [.noEnclosureProduct slots (tierFor slots) current.id]
  | fits {current : LineItem} {slots : Number} {product : Product} (breakers : 0 < n)
      (first : row? items = some current) (needed : slotsFor (.int n) = .ok slots)
      (chosen : productFor catalog preference (tierFor slots) current.quality = some product)
      (same : product.id = current.productId) : Resizes catalog preference items n none []
  | switched {current row : LineItem} {slots : Number} {product : Product} (breakers : 0 < n)
      (first : row? items = some current) (needed : slotsFor (.int n) = .ok slots)
      (chosen : productFor catalog preference (tierFor slots) current.quality = some product)
      (switched : current.withProduct product = .ok row) :
      Resizes catalog preference items n (some row) []

theorem resized_resizes (counted : breakerCount protection = .ok (.int n)) {copy : Option LineItem}
    {diagnostics : List Diagnostic}
    (sized : resized catalog preference items protection = .ok (copy, diagnostics)) :
    Resizes catalog preference items n copy diagnostics := by
  unfold resized at sized
  rw [counted] at sized
  obtain ⟨_, known, sized⟩ := bind_ok_iff.1 sized
  cases known
  split at sized
  · rename_i nowhere
    cases sized
    exact .idle (.inr nowhere)
  · rename_i current first
    split at sized
    · rename_i zero
      cases sized
      exact .idle (.inl (by simpa [Number.isZero] using zero))
    · rename_i nonzero
      have breakers : 0 < n := Nat.pos_of_ne_zero (by simpa [Number.isZero] using nonzero)
      obtain ⟨slots, needed, sized⟩ := bind_ok_iff.1 sized
      dsimp only at sized
      split at sized
      · rename_i missing
        cases sized
        exact .missing breakers first needed missing
      · rename_i product chosen
        split at sized
        · rename_i same
          cases sized
          exact .fits breakers first needed chosen same
        · obtain ⟨row, switched, same⟩ := bind_ok_iff.1 sized
          cases same
          exact .switched breakers first needed chosen switched

/-- Sizing completes as long as a sixth of the breakers is in range. -/
theorem resized_completes (counted : breakerCount protection = .ok (.int n))
    (inRange : n < 6 * (2 ^ 1024 - 2 ^ 970)) (made : ∀ item ∈ items, item.Made) :
    ∃ sized, resized catalog preference items protection = .ok sized := by
  refine bind_total ⟨_, counted⟩ fun breakers known => ?_
  cases counted.symm.trans known
  split
  · exact ⟨_, rfl⟩
  · rename_i current first
    split
    · exact ⟨_, rfl⟩
    · have slots : ∃ slots, slotsFor (.int n) = .ok slots := by
        unfold slotsFor
        split
        · exact ⟨_, rfl⟩
        · obtain ⟨residual, quotient⟩ := ceilQuotient_inRange (by decide) inRange
          exact bind_total ⟨_, quotient⟩ fun _ _ => ⟨_, rfl⟩
      refine bind_total slots fun slots _ => ?_
      dsimp only
      split
      · exact ⟨_, rfl⟩
      · split
        · exact ⟨_, rfl⟩
        · rename_i product _ _
          have own := (made current (List.mem_of_find?_eq_some first)).convertible
          exact bind_total (exists_withProduct_iff.2 own) fun _ _ => ⟨_, rfl⟩

/-! ## The rows -/

def isEnclosure (item : LineItem) : Bool := item.group = some ProductGroups.enclosure

/-- With distinct ids, a row is replaced in one place. -/
theorem replace_split {before after : List LineItem} {current row : LineItem}
    (ids : ((before ++ current :: after).map (·.id)).Nodup) (same : row.id = current.id) :
    replace row (before ++ current :: after) = before ++ row :: after := by
  rw [List.map_append, List.map_cons, List.nodup_append, List.nodup_cons] at ids
  obtain ⟨_, ⟨notAfter, _⟩, apart⟩ := ids
  have stays : ∀ part : List LineItem, (∀ item ∈ part, item.id ≠ current.id) →
      part.map (fun item => if item.id = row.id then row else item) = part := by
    intro part others
    refine (List.map_congr_left fun item listed => ?_).trans (List.map_id part)
    exact if_neg (same ▸ others item listed)
  unfold replace
  rw [List.map_append, List.map_cons, if_pos same.symm,
    stays before fun item listed => apart _ (List.mem_map_of_mem listed) _ List.mem_cons_self,
    stays after fun item listed own => notAfter (own ▸ List.mem_map_of_mem listed)]

/-- There are breakers, an enclosure row, and a product that suits it. -/
def Fills (catalog : Catalog) (location : Option String) (n : Nat) (tier : Int)
    (items : List LineItem) : Prop :=
  0 < n ∧ (∃ item ∈ items, isEnclosure item = true) ∧
    ∃ product, Suits catalog location tier product

/-- There are breakers and an enclosure row, but no product suits it. -/
def Lacks (catalog : Catalog) (location : Option String) (n : Nat) (tier : Int)
    (items : List LineItem) : Prop :=
  0 < n ∧ (∃ item ∈ items, isEnclosure item = true) ∧
    ∀ product, ¬ Suits catalog location tier product

/-- What sizing makes of rows, with so many breakers and the tier for them. -/
structure Sized (catalog : Catalog) (location : Option String) (n : Nat) (tier : Int)
    (items rows : List LineItem) (diagnostics : List Diagnostic) : Prop where
  ids : rows.map (·.id) = items.map (·.id)
  quantities : rows.map (·.quantity) = items.map (·.quantity)
  /-- The first enclosure row shows a product that suits it, and all others are as they were. -/
  filled : Fills catalog location n tier items → ∃ before current row after product,
    items = before ++ current :: after ∧ (∀ item ∈ before, isEnclosure item = false) ∧
      isEnclosure current = true ∧ rows = before ++ row :: after ∧
      Suits catalog location tier product ∧ row.productId = product.id
  unchanged : ¬ Fills catalog location n tier items → rows = items
  reported : Lacks catalog location n tier items →
    ∃ slots itemId, diagnostics = [.noEnclosureProduct slots tier itemId]
  silent : ¬ Lacks catalog location n tier items → diagnostics = []

variable {tier : Int} {copy : Option LineItem} {diagnostics : List Diagnostic}

theorem exists_enclosure_iff : (∃ item ∈ items, isEnclosure item = true) ↔
    ∃ current, row? items = some current := by
  rw [← Option.isSome_iff_exists]
  exact List.find?_isSome.symm

/-- The rows are sized where the first enclosure row shows a product that suits it. -/
theorem sized_replace {current row : LineItem} {product : Product} (ids : (items.map (·.id)).Nodup)
    (breakers : 0 < n) (first : row? items = some current)
    (suits : Suits catalog preference.location tier product) (own : row.id = current.id)
    (quantity : row.quantity = current.quantity) (shows : row.productId = product.id) :
    Sized catalog preference.location n tier items (replace row items) [] := by
  obtain ⟨isFirst, before, after, split, others⟩ := List.find?_eq_some_iff_append.1 first
  have fills : Fills catalog preference.location n tier items :=
    ⟨breakers, exists_enclosure_iff.2 ⟨current, first⟩, product, suits⟩
  exact {
    ids := replace_ids row items
    quantities := map_replace fun item listed same => by
      rw [List.inj_on_of_nodup_map ids listed (List.mem_of_find?_eq_some first) (same.trans own),
        quantity]
    filled := fun _ => by
      subst split
      refine ⟨before, current, row, after, product, rfl, fun item listed => ?_, isFirst,
        replace_split ids own, suits, shows⟩
      simpa [isEnclosure] using others item listed
    unchanged := fun idle => absurd fills idle
    reported := fun lacks => absurd suits (lacks.2.2 product)
    silent := fun _ => rfl }

/-- The rows are sized as they are where there is nothing to fill; a product that is missing is
reported. -/
theorem sized_refl (idle : ¬ Fills catalog preference.location n tier items)
    (reported : Lacks catalog preference.location n tier items →
      ∃ slots itemId, diagnostics = [.noEnclosureProduct slots tier itemId])
    (silent : ¬ Lacks catalog preference.location n tier items → diagnostics = []) :
    Sized catalog preference.location n tier items items diagnostics where
  ids := rfl
  quantities := rfl
  filled fills := absurd fills idle
  unchanged _ := rfl
  reported := reported
  silent := silent

/-- The rows are sized, with the copy in the place of the first enclosure row. -/
theorem Resizes.sized (resizes : Resizes catalog preference items n copy diagnostics)
    (ids : (items.map (·.id)).Nodup) (isTier : IsTier (slotsOf n) tier) :
    Sized catalog preference.location n tier items
      (copy.elim items fun row => replace row items) diagnostics := by
  have needsTier : ∀ slots, 0 < n → slotsFor (.int n) = .ok slots → tierFor slots = tier :=
    fun _ breakers needed => (tierFor_isTier breakers needed).unique isTier
  cases resizes with
  | idle nothing =>
    have idle : ¬ (0 < n ∧ ∃ item ∈ items, isEnclosure item = true) := by
      rw [exists_enclosure_iff]
      rintro ⟨breakers, current, first⟩
      rcases nothing with zero | nowhere
      · omega
      · exact nomatch nowhere.symm.trans first
    exact sized_refl (fun fills => idle ⟨fills.1, fills.2.1⟩)
      (fun lacks => absurd ⟨lacks.1, lacks.2.1⟩ idle) fun _ => rfl
  | missing breakers first needed missing =>
    rw [needsTier _ breakers needed] at missing ⊢
    have none := productFor_none_iff.1 missing
    have lacks : Lacks catalog preference.location n tier items :=
      ⟨breakers, exists_enclosure_iff.2 ⟨_, first⟩, none⟩
    exact sized_refl (fun fills => fills.2.2.elim none) (fun _ => ⟨_, _, rfl⟩)
      fun present => absurd lacks present
  | fits breakers first needed chosen same =>
    rw [needsTier _ breakers needed] at chosen
    have sized := sized_replace ids breakers first (mem_ofTier_iff.1 (productFor_mem chosen)) rfl rfl
      same.symm
    rwa [replace_self ids (List.mem_of_find?_eq_some first)] at sized
  | switched breakers first needed chosen switched =>
    rw [needsTier _ breakers needed] at chosen
    obtain ⟨_, _, rfl⟩ := withProduct_ok switched
    exact sized_replace ids breakers first (mem_ofTier_iff.1 (productFor_mem chosen)) rfl rfl rfl

/-- Rows are sized by the least tier that holds the slots of all breakers, or the largest. A list that
is sized has the same ids and quantities in the same order. If there are breakers, an enclosure row and
an available enclosure of that tier, the first enclosure row shows such a product, and all others are as
they were; else no row changes, and what is reported is only that such a product is missing. Rows that
were made are sized as long as a sixth of the breakers is in range. -/
theorem resize_sizes (ids : (items.map (·.id)).Nodup) (counted : CountedInUnits protection)
    (isTier : IsTier (slotsOf (breakerUnits protection)) tier) :
    (breakerUnits protection < 6 * (2 ^ 1024 - 2 ^ 970) → (∀ item ∈ items, item.Made) →
      ∃ rows diagnostics, resize catalog preference items protection = .ok (rows, diagnostics)) ∧
    ∀ rows diagnostics, resize catalog preference items protection = .ok (rows, diagnostics) →
      Sized catalog preference.location (breakerUnits protection) tier items rows diagnostics := by
  have whole := breakerCount_counted counted
  constructor
  · intro inRange made
    obtain ⟨⟨rows, diagnostics⟩, sized⟩ :
        ∃ sized, resize catalog preference items protection = .ok sized :=
      bind_total (resized_completes whole inRange made) fun _ _ => ⟨_, rfl⟩
    exact ⟨rows, diagnostics, sized⟩
  · intro rows diagnostics resized
    obtain ⟨⟨copy, reports⟩, sized, same⟩ := bind_ok_iff.1 resized
    have result := (resized_resizes whole sized).sized ids isTier
    cases copy with
    | none =>
      cases same
      exact result
    | some row =>
      cases same
      exact result

/-- A row of a switchboard. -/
def boardRow (id : String) (quantity : Int) : List LineItem :=
  let place : Placement := ⟨"1-0", .num (.int 1), "Board"⟩
  ((Configuration.switchboard.product? id).bind fun product =>
    (make place product (.int quantity) (.float 1.0) none false).toOption).toList

theorem boardRow_made {id : String} {quantity : Int} : ∀ item ∈ boardRow id quantity, item.Made := by
  intro item listed
  obtain ⟨product, _, made⟩ := Option.bind_eq_some_iff.1 (Option.mem_toList.1 listed)
  exact .make (toOption_eq_some_iff.1 made)

/-- Sockets and an enclosure. -/
def board : List LineItem := boardRow "SKT" 17 ++ boardRow "UV-24" 1

def boardBreakers : List LineItem := boardRow "MCB" 3

/-- Three breakers take seven slots, so the enclosure with 24 is switched to the one with 12. -/
theorem board_sized : (board.map (·.id)).Nodup ∧ CountedInUnits boardBreakers ∧
    IsTier (slotsOf (breakerUnits boardBreakers)) 12 ∧
    breakerUnits boardBreakers < 6 * (2 ^ 1024 - 2 ^ 970) ∧ (∀ item ∈ board, item.Made) ∧
    ∃ rows diagnostics,
      resize Configuration.switchboard ⟨none, none⟩ board boardBreakers = .ok (rows, diagnostics) ∧
      Sized Configuration.switchboard none (breakerUnits boardBreakers) 12 board rows diagnostics ∧
      rows.map (·.productId) = ["SKT", "UV-12"] := by
  have ids : (board.map (·.id)).Nodup := by decide +kernel
  have counted : CountedInUnits boardBreakers := by
    have quantities : boardBreakers.map (·.quantity) = [.int 3] := by decide +kernel
    intro device listed
    have quantity := List.mem_map_of_mem (f := (·.quantity)) listed
    rw [quantities, List.mem_singleton] at quantity
    exact ⟨3, by decide, quantity⟩
  have isTier : IsTier (slotsOf (breakerUnits boardBreakers)) 12 := by decide +kernel
  have inRange : breakerUnits boardBreakers < 6 * (2 ^ 1024 - 2 ^ 970) := by decide +kernel
  have made : ∀ item ∈ board, item.Made := fun item listed =>
    (List.mem_append.1 listed).elim (boardRow_made item) (boardRow_made item)
  have shown : (resize Configuration.switchboard ⟨none, none⟩ board boardBreakers).toOption.map
      (fun result => result.1.map (·.productId)) = some ["SKT", "UV-12"] := by decide +kernel
  have sizes :=
    @resize_sizes Configuration.switchboard ⟨none, none⟩ board boardBreakers 12 ids counted isTier
  obtain ⟨rows, diagnostics, resized⟩ := sizes.1 inRange made
  obtain ⟨_, known, products⟩ := toOption_map_eq_some_iff.1 shown
  cases resized.symm.trans known
  exact ⟨ids, counted, isTier, inRange, made, rows, diagnostics, resized, sizes.2 _ _ resized,
    products⟩

end Enclosure

end WiringQuote
