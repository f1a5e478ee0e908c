import WiringQuote.Proofs.Session.Available
import WiringQuote.Proofs.Session.Reswapped

/-!
# Stages under another swap

The rows of a store are resolved anew with another swap. If the swapped row is merged with no other, it is
replaced in its place, among the product rows or among the devices, and nothing else is resolved
differently: it stays in its group and counts as before, so the same devices are derived, and the same
breakers are counted for the enclosure.

* `reswapped_shows`: the swapped row is of the new product.
* `alone_product`, `alone_device`: an accepted swap leaves a row alone.
* `swap_product`, `swap_device`: what the stages make of another swap.
* `exists_reswapped`: these together, for an accepted swap of a row that is merged with no other.
-/

namespace WiringQuote

open Fallible LineItem

/-! ## The swapped row -/

/-- A row that is swapped to a product that can stand in is of that product. -/
theorem Overlay.reswapped_shows {overlay : Overlay} {catalog : Catalog} {location : Option String}
    {productId : String} {item row : LineItem} {product : Product} (named : productId ≠ "")
    (known : catalog.product? productId = some product)
    (standsIn : isAlternative location item product = true) (offered : item.Offered catalog location)
    (revised : (overlay.withSwap item.id productId).reviseRow catalog location item = .ok row) :
    ∃ listed ∈ catalog.products, listed.id = productId ∧ row.Shows listed := by
  rw [reviseRow_eq, swapRow_eq] at revised
  obtain ⟨swapped, first, second⟩ := bind_ok_iff.1 revised
  obtain ⟨listed, present, own, shows⟩ : ∃ listed ∈ catalog.products, listed.id = productId ∧
      swapped.Shows listed := by
    by_cases same : item.productId = productId
    · rw [standIn?_withSwap_self rfl same] at first
      cases first
      obtain ⟨listed, offers, shows⟩ := offered
      exact ⟨listed, offers.listed, shows.productId.symm.trans same, shows⟩
    · rw [standIn?_withSwap rfl named known standsIn same] at first
      have own : product.id = productId := by simpa using List.find?_some known
      exact ⟨product, List.mem_of_find?_eq_some known, own, withProduct_shows first⟩
  refine ⟨listed, present, own, ?_⟩
  cases set : (overlay.withSwap item.id productId).quantities.get? swapped.id with
  | none =>
    rw [set] at second
    cases second
    exact shows
  | some n =>
    rw [set] at second
    exact withQuantity_shows second shows

/-- What can stand in for a row depends on its group alone. -/
theorem Overlay.isAlternative_congr {a b : LineItem} (same : b.group = a.group)
    (location : Option String) (product : Product) :
    isAlternative location b product = isAlternative location a product := by
  unfold isAlternative
  rw [same]

/-- Figures are laid over rows that are swapped as over other rows. -/
theorem LineItem.SwapsTo.valueRow {id productId : String} {row next : LineItem}
    (swaps : SwapsTo id productId row next) (overlay : Overlay) :
    SwapsTo id productId (overlay.valueRow row) (overlay.valueRow next) := by
  unfold SwapsTo at swaps ⊢
  by_cases own : row.id = id
  · rw [if_pos own] at swaps
    exact (if_pos own).mpr swaps
  · rw [if_neg own] at swaps
    exact (if_neg own).mpr (swaps ▸ rfl)

/-! ## Stages under another swap -/

namespace Store

variable {reference : Reference} {store : Store} {id productId : String}
  {stages next : Configuration.Stages}

/-- What the stages make of another swap of a row: the row is replaced in its place, in the product rows or
in the devices. -/
structure Reswapped (reference : Reference) (store : Store) (id productId : String)
    (stages next : Configuration.Stages) (item reswapped : LineItem) : Prop where
  own : item.id = id
  offered : item.Offered reference.catalog (store.configuration reference).location
  revised : (store.overlay.withSwap id productId).reviseRow reference.catalog
    (store.configuration reference).location item = .ok reswapped
  stays : ∀ row ∈ stages.items ++ stages.protection, row.id = id → Stays item row
  items : List.Forall₂ (SwapsTo id (Enclosure.sizedId reference.catalog
    (store.configuration reference).preference next.revised next.protection id reswapped.productId
      reswapped.quality)) stages.items next.items
  protection : List.Forall₂ (SwapsTo id (Enclosure.sizedId reference.catalog
    (store.configuration reference).preference next.revised next.protection id reswapped.productId
      reswapped.quality)) stages.protection next.protection

/-- A product is accepted for a row of the last stage. -/
structure Acceptable (reference : Reference) (store : Store) (productId : String)
    (rows : List LineItem) (row : LineItem) (product : Product) : Prop where
  named : productId ≠ ""
  known : reference.catalog.product? productId = some product
  shown : row ∈ rows
  standsIn : Overlay.isAlternative (store.configuration reference).location row product = true
  free : ∀ other ∈ rows, other.id ≠ row.id → other.pair ≠ (row.instanceId, productId)

section Stages

variable (of : stages.Of reference.catalog
    (store.overlay.revise reference.catalog (store.configuration reference).location)
    (store.configuration reference))

include of

section Made

variable {item row : LineItem} (canonical : store.Canonical reference)

include canonical

/-- A product row of the last stage stays what the row that was made with its id is. -/
theorem items_stays (listed : item ∈ stages.built.rows.values) (shown : row ∈ stages.items)
    (own : row.id = item.id) : Stays item row := by
  have asMade := built_asMade of canonical
  obtain ⟨revised, inRevised, sized⟩ :=
    of.items_stays (Overlay.revise_ids_nodup asMade.ids of.revised) shown
  obtain ⟨made, inKept, stays⟩ := Overlay.revise_stays of.revised inRevised
  have whole := stays.trans sized
  obtain rfl : made = item := List.inj_on_of_nodup_map asMade.ids (List.mem_filter.1 inKept).1 listed
    (whole.id.symm.trans own)
  exact whole

/-- A device stays what the device that was made with its id is. -/
theorem protection_stays (listed : item ∈ stages.derived.rows.values)
    (shown : row ∈ stages.protection) (own : row.id = item.id) : Stays item row := by
  obtain ⟨made, inKept, stays⟩ := Overlay.revise_stays of.protection shown
  obtain rfl : made = item := List.inj_on_of_nodup_map (derived_asMade of canonical).ids
    (List.mem_filter.1 inKept).1 listed (stays.id.symm.trans own)
  exact stays

/-- Where no product row is made with the id, none is displayed with it. -/
theorem items_absent (absent : id ∉ (store.overlay.kept stages.built.rows.values).map (·.id)) :
    ∀ row ∈ stages.items, row.id ≠ id := by
  intro row listed own
  have resolved := List.mem_map_of_mem (f := (·.id)) listed
  rw [stages.items_ids] at resolved
  obtain ⟨revised, present, same⟩ := List.mem_map.1 resolved
  exact Overlay.revise_absent (built_asMade of canonical).ids absent of.revised revised present
    (same.trans own)

/-- Where no device has the id, only a product row is displayed with it. -/
theorem stays_of_product (listed : item ∈ stages.built.rows.values)
    (absent : item.id ∉ (store.overlay.kept stages.derived.rows.values).map (·.id))
    (shown : row ∈ stages.items ++ stages.protection) (own : row.id = item.id) : Stays item row := by
  rcases List.mem_append.1 shown with product | device
  · exact items_stays of canonical listed product own
  · exact absurd own (Overlay.revise_absent (derived_asMade of canonical).ids absent of.protection
      row device)

/-- Where no product row has the id, only a device is displayed with it. -/
theorem stays_of_device (listed : item ∈ stages.derived.rows.values)
    (absent : item.id ∉ (store.overlay.kept stages.built.rows.values).map (·.id))
    (shown : row ∈ stages.items ++ stages.protection) (own : row.id = item.id) : Stays item row := by
  rcases List.mem_append.1 shown with product | device
  · exact absurd own (items_absent of canonical absent row product)
  · exact protection_stays of canonical listed device own

/-- A product row that is alone stays so under an accepted swap, unless the new product is an enclosure:
the first row of these may be displayed with another product than it was revised with. -/
theorem alone_product {product : Product}
    (accepts : Acceptable reference store productId (stages.items ++ stages.protection) row product)
    (other : ∀ listed ∈ reference.catalog.products, listed.id = productId →
      listed.group ≠ some ProductGroups.enclosure)
    (before : store.overlay.Alone reference.catalog (store.configuration reference).location
      stages.built.rows.values row.id)
    (absent : row.id ∉ (store.overlay.kept stages.derived.rows.values).map (·.id)) :
    (store.overlay.withSwap row.id productId).Alone reference.catalog
      (store.configuration reference).location stages.built.rows.values row.id := by
  have asMade := built_asMade of canonical
  have ⟨item, listed, own, _⟩ := before
  rw [← own] at before absent ⊢
  have stays := stays_of_product of canonical (List.mem_filter.1 listed).1 absent accepts.shown own.symm
  refine Overlay.alone_withSwap asMade of.revised accepts.named accepts.known listed
    ((Overlay.isAlternative_congr stays.group _ _).symm.trans accepts.standsIn) before
    fun revised present apart pair => ?_
  obtain ⟨offered, offers, shows⟩ := (preserves_offered reference store).revised of
    ((makes_offered reference store).built (preserves_offered reference store) of) revised present
  have isProduct : offered.id = productId :=
    shows.productId.symm.trans (congrArg Prod.snd pair)
  have inItems := of.mem_items (Overlay.revise_ids_nodup asMade.ids of.revised) present
    (shows.group ▸ other offered offers.listed isProduct)
  exact accepts.free revised (List.mem_append_left _ inItems) (own ▸ apart) (stays.instanceId ▸ pair)

/-- A device that is alone stays so under an accepted swap. -/
theorem alone_device {product : Product}
    (accepts : Acceptable reference store productId (stages.items ++ stages.protection) row product)
    (before : store.overlay.Alone reference.catalog (store.configuration reference).location
      stages.derived.rows.values row.id)
    (absent : row.id ∉ (store.overlay.kept stages.built.rows.values).map (·.id)) :
    (store.overlay.withSwap row.id productId).Alone reference.catalog
      (store.configuration reference).location stages.derived.rows.values row.id := by
  have ⟨item, listed, own, _⟩ := before
  rw [← own] at before absent ⊢
  have stays := stays_of_device of canonical (List.mem_filter.1 listed).1 absent accepts.shown own.symm
  exact Overlay.alone_withSwap (derived_asMade of canonical) of.protection accepts.named accepts.known
    listed ((Overlay.isAlternative_congr stays.group _ _).symm.trans accepts.standsIn) before
    fun revised present apart pair => accepts.free revised (List.mem_append_right _ present)
      (own ▸ apart) (stays.instanceId ▸ pair)

end Made

section Next

variable (ofNext : next.Of reference.catalog
    ((store.overlay.withSwap id productId).revise reference.catalog
      (store.configuration reference).location) (store.configuration reference))

include ofNext

/-- The rows of rules do not depend on swaps. -/
theorem built_eq : next.built = stages.built := by
  have quantities : next.quantities = stages.quantities :=
    Except.ok.inj (ofNext.quantities.symm.trans of.quantities)
  have built := ofNext.built
  rw [quantities] at built
  exact Except.ok.inj (built.symm.trans of.built)

variable (canonical : store.Canonical reference)

include canonical

/-- A swap of a product row that is merged with no other, before or after. -/
theorem swap_product
    (before : store.overlay.Alone reference.catalog (store.configuration reference).location
      stages.built.rows.values id)
    (after : (store.overlay.withSwap id productId).Alone reference.catalog
      (store.configuration reference).location stages.built.rows.values id)
    (absent : id ∉ (store.overlay.kept stages.derived.rows.values).map (·.id)) :
    ∃ item reswapped, Reswapped reference store id productId stages next item reswapped := by
  have asMade := built_asMade of canonical
  have ids := Overlay.revise_ids_nodup asMade.ids of.revised
  have again := ofNext.revised
  rw [built_eq of ofNext] at again
  obtain ⟨item, row, reswapped, swaps⟩ :=
    Overlay.revise_withSwap asMade before after of.revised again
  obtain rfl := swaps.own
  -- The row counts as before for the devices, so these are not changed.
  have derived : next.derived = stages.derived := by
    have derivedNext := ofNext.derived
    unfold Protection.derive at derivedNext
    rw [swaps.replaced, Consumers.ofItems_replace fun other listed same => ?_] at derivedNext
    · exact Except.ok.inj (derivedNext.symm.trans of.derived)
    · rw [List.inj_on_of_nodup_map ids listed swaps.present (same.trans swaps.stays.id)]
      exact Consumers.addItem_congr swaps.stays swaps.quantity
  have protection : next.protection = stages.protection := by
    have revisedNext := ofNext.protection
    rw [derived, Overlay.revise_withSwap_other absent] at revisedNext
    exact Except.ok.inj (revisedNext.symm.trans of.protection)
  have items := of.items_swapped ofNext ids swaps.present swaps.replaced swaps.stays protection
    swaps.quantity
  rw [swaps.made.id] at items
  have elsewhere := Overlay.revise_absent (derived_asMade of canonical).ids absent of.protection
  refine ⟨item, reswapped, {
    own := rfl
    offered := OrderedMap.Each.of_mem
      ((makes_offered reference store).built (preserves_offered reference store) of) swaps.listed
    revised := swaps.revised
    stays := fun _ shown same => stays_of_product of canonical swaps.listed absent shown same
    items
    protection := ?_ }⟩
  rw [protection, List.forall₂_same]
  exact fun device listed => (if_neg (elsewhere device listed)).mpr rfl

/-- A swap of a device that is merged with no other, before or after. -/
theorem swap_device
    (before : store.overlay.Alone reference.catalog (store.configuration reference).location
      stages.derived.rows.values id)
    (after : (store.overlay.withSwap id productId).Alone reference.catalog
      (store.configuration reference).location stages.derived.rows.values id)
    (absent : id ∉ (store.overlay.kept stages.built.rows.values).map (·.id)) :
    ∃ item reswapped, Reswapped reference store id productId stages next item reswapped := by
  have asMade := derived_asMade of canonical
  have ids := Overlay.revise_ids_nodup asMade.ids of.protection
  have revised : next.revised = stages.revised := by
    have revisedNext := ofNext.revised
    rw [built_eq of ofNext, Overlay.revise_withSwap_other absent] at revisedNext
    exact Except.ok.inj (revisedNext.symm.trans of.revised)
  have derived : next.derived = stages.derived := by
    have derivedNext := ofNext.derived
    rw [revised] at derivedNext
    exact Except.ok.inj (derivedNext.symm.trans of.derived)
  have again := ofNext.protection
  rw [derived] at again
  obtain ⟨item, row, reswapped, swaps⟩ :=
    Overlay.revise_withSwap asMade before after of.protection again
  obtain rfl := swaps.own
  have isRow : ∀ device ∈ stages.protection, device.id = reswapped.id → device = row :=
    fun device listed same => List.inj_on_of_nodup_map ids listed swaps.present
      (same.trans swaps.stays.id)
  -- The device counts as before for the enclosure, so this is sized as before.
  have items : next.items = stages.items := by
    refine of.items_congr ofNext revised ?_
    rw [swaps.replaced]
    refine Enclosure.breakerCount_replace fun device listed same => ?_
    rw [isRow device listed same]
    exact ⟨swaps.stays.group, swaps.quantity⟩
  have elsewhere := Overlay.revise_absent (built_asMade of canonical).ids absent of.revised
  have notProduct := items_absent of canonical absent
  have unsized : Enclosure.sizedId reference.catalog (store.configuration reference).preference
      next.revised next.protection item.id reswapped.productId reswapped.quality =
      reswapped.productId := by
    refine if_neg fun first => ?_
    obtain ⟨current, found, own⟩ := Option.map_eq_some_iff.1 first
    rw [revised] at found
    exact elsewhere current (List.mem_of_find?_eq_some found) own
  refine ⟨item, reswapped, {
    own := rfl
    offered := OrderedMap.Each.of_mem
      ((makes_offered reference store).derived (preserves_offered reference store) of) swaps.listed
    revised := swaps.revised
    stays := fun _ shown same => stays_of_device of canonical swaps.listed absent shown same
    items := ?_
    protection := ?_ }⟩
  · rw [items, List.forall₂_same]
    exact fun product listed => (if_neg (notProduct product listed)).mpr rfl
  · have swapsTo : SwapsTo item.id reswapped.productId row reswapped :=
      (if_pos swaps.made.id).mpr ⟨swaps.stays.id.trans swaps.made.id, rfl, swaps.quantity,
        swaps.stays.hoursMultiplier⟩
    rw [unsized, swaps.replaced]
    exact swapsTo.replaced swaps.made.id ids swaps.present

end Next

end Stages

/-- The row that takes the place of the swapped one shows a product with the id. -/
theorem Reswapped.shows {item reswapped row : LineItem} {product : Product}
    (swaps : Reswapped reference store row.id productId stages next item reswapped)
    (accepts : Acceptable reference store productId (stages.items ++ stages.protection) row product) :
    ∃ listed ∈ reference.catalog.products, listed.id = productId ∧ reswapped.Shows listed := by
  have stays := swaps.stays row accepts.shown rfl
  have standsIn := (Overlay.isAlternative_congr stays.group _ _).symm.trans accepts.standsIn
  have revised := swaps.revised
  rw [← swaps.own] at revised
  exact Overlay.reswapped_shows accepts.named accepts.known standsIn swaps.offered revised

/-- One of the rows has the id, among the product rows or among the devices, and it is merged with no other
row. -/
def Unrevised.Single (made : Unrevised) (overlay : Overlay) (catalog : Catalog)
    (location : Option String) (id : String) : Prop :=
  overlay.Alone catalog location made.products id ∧ id ∉ (overlay.kept made.devices).map (·.id) ∨
    overlay.Alone catalog location made.devices id ∧ id ∉ (overlay.kept made.products).map (·.id)

instance (made : Unrevised) (overlay : Overlay) (catalog : Catalog) (location : Option String)
    (id : String) : Decidable (made.Single overlay catalog location id) :=
  inferInstanceAs (Decidable (_ ∨ _))

/-- The store makes one row with the id, and it is merged with no other row. -/
def Unmerged (reference : Reference) (store : Store) (id : String) : Prop :=
  ∃ made, store.unrevised reference = .ok made ∧
    made.Single store.overlay reference.catalog (store.configuration reference).location id

theorem unmerged_iff {made : Unrevised} (ok : store.unrevised reference = .ok made) :
    store.Unmerged reference id ↔
      made.Single store.overlay reference.catalog (store.configuration reference).location id := by
  unfold Unmerged
  rw [ok]
  simp only [Except.ok.injEq, exists_eq_left']

instance (reference : Reference) (store : Store) (id : String) :
    Decidable (store.Unmerged reference id) :=
  match made : store.unrevised reference with
  | .ok _ => decidable_of_iff' _ (unmerged_iff made)
  | .error _ => isFalse fun ⟨_, ok, _⟩ => nomatch made.symm.trans ok

/-- An accepted swap of a row that is merged with no other replaces it in its place. -/
theorem exists_reswapped {row : LineItem} {product : Product} (canonical : store.Canonical reference)
    (of : stages.Of reference.catalog
      (store.overlay.revise reference.catalog (store.configuration reference).location)
      (store.configuration reference))
    (ofNext : next.Of reference.catalog
      ((store.overlay.withSwap row.id productId).revise reference.catalog
        (store.configuration reference).location) (store.configuration reference))
    (accepts : Acceptable reference store productId (stages.items ++ stages.protection) row product)
    (before : store.Unmerged reference row.id)
    (after : ∀ listed ∈ reference.catalog.products, listed.id = productId →
      listed.group = some ProductGroups.enclosure →
        Unmerged reference { store with overlay := store.overlay.withSwap row.id productId } row.id) :
    ∃ item reswapped, Reswapped reference store row.id productId stages next item reswapped := by
  rcases (unmerged_iff (unrevised_eq of)).1 before with ⟨alone, absent⟩ | ⟨alone, absent⟩
  · refine swap_product of ofNext canonical alone ?_ absent
    by_cases enclosure : ∃ listed ∈ reference.catalog.products, listed.id = productId ∧
        listed.group = some ProductGroups.enclosure
    · obtain ⟨listed, present, own, group⟩ := enclosure
      have made : unrevised reference { store with overlay := store.overlay.withSwap row.id productId } =
          .ok ⟨next.built.rows.values, next.derived.rows.values⟩ := unrevised_eq ofNext
      rcases (unmerged_iff made).1 (after listed present own group) with ⟨still, _⟩ | ⟨_, gone⟩
      · exact built_eq of ofNext ▸ still
      · rw [built_eq of ofNext] at gone
        obtain ⟨item, listed, own, _⟩ := alone
        exact absurd (List.mem_map.2 ⟨item, listed, own⟩) gone
    · exact alone_product of canonical accepts
        (fun listed present own group => enclosure ⟨listed, present, own, group⟩) alone absent
  · exact swap_device of ofNext canonical alone (alone_device of canonical accepts alone absent) absent

/-- What a row shows after sizing is told from the displayed rows. -/
theorem sizedId_display {revise : Revision} {catalog : Catalog} {configuration : Configuration}
    (of : stages.Of catalog revise configuration) (ids : (stages.revised.map (·.id)).Nodup)
    (overlay : Overlay) (quality : Option String) :
    Enclosure.sizedId catalog configuration.preference (stages.items.map overlay.valueRow)
        (stages.protection.map overlay.valueRow) id productId quality =
      Enclosure.sizedId catalog configuration.preference stages.revised stages.protection id productId
        quality := by
  have breakers : Enclosure.breakerCount (stages.protection.map overlay.valueRow) =
      Enclosure.breakerCount stages.protection := by
    refine Enclosure.breakerCount_congr ?_
    rw [List.map_map]
    rfl
  have first : (Enclosure.row? (stages.items.map overlay.valueRow)).map (·.id) =
      (Enclosure.row? stages.revised).map (·.id) := by
    have displayed : Enclosure.row? (stages.items.map overlay.valueRow) =
        (Enclosure.row? stages.items).map overlay.valueRow := by
      unfold Enclosure.row?
      rw [List.find?_map]
      rfl
    rw [displayed, Option.map_map, ← of.row?_items ids]
    rfl
  unfold Enclosure.sizedId Enclosure.chosen?
  rw [first, breakers]

end Store

end WiringQuote
