import WiringQuote.Proofs.FixedPoint

/-!
# Sizing

Sizing the enclosure may switch the first enclosure row to another product. Everything else about that row
stays, and so does every other row. So where a row is replaced before the enclosure is sized, it is
replaced afterwards too, and only if it is the first enclosure row by something else.

* `resized_final`: what sizing makes of the first enclosure row.
* `Stages.Of.items_eq`, `Stages.Of.items_map`: the rows of the last stage.
* `Stages.Of.items_swapped`: a row that is replaced before sizing.
-/

namespace WiringQuote

open Fallible LineItem

/-! ## Rows that stay -/

/-- The row stays in its group and keeps its id, its selected package, its multiplier, and whether it is a
device. -/
structure LineItem.Stays (before after : LineItem) : Prop where
  id : after.id = before.id
  instanceId : after.instanceId = before.instanceId
  hoursMultiplier : after.hoursMultiplier = before.hoursMultiplier
  group : after.group = before.group
  isProtection : after.isProtection = before.isProtection

theorem LineItem.Stays.refl (item : LineItem) : Stays item item := ⟨rfl, rfl, rfl, rfl, rfl⟩

theorem LineItem.Stays.trans {a b c : LineItem} (first : Stays a b) (second : Stays b c) : Stays a c where
  id := second.id.trans first.id
  instanceId := second.instanceId.trans first.instanceId
  hoursMultiplier := second.hoursMultiplier.trans first.hoursMultiplier
  group := second.group.trans first.group
  isProtection := second.isProtection.trans first.isProtection

theorem LineItem.Stays.of_both {item a b : LineItem} (first : Stays item a) (second : Stays item b) :
    Stays a b where
  id := second.id.trans first.id.symm
  instanceId := second.instanceId.trans first.instanceId.symm
  hoursMultiplier := second.hoursMultiplier.trans first.hoursMultiplier.symm
  group := second.group.trans first.group.symm
  isProtection := second.isProtection.trans first.isProtection.symm

/-- Consumers are told from the group and the quantity of a row. -/
theorem Consumers.addItem_congr {a b : LineItem} (stays : Stays a b) (quantity : b.quantity = a.quantity)
    (consumers : Consumers) : consumers.addItem b = consumers.addItem a := by
  unfold addItem
  rw [stays.isProtection, stays.group, quantity]

/-! ## The sized row -/

namespace Enclosure

variable {catalog : Catalog} {preference : Preference} {items protection : List LineItem}
  {row : LineItem}

/-- The enclosure that the breakers among the protection rows need, starting from a quality; none if
there are no breakers, or no product for their tier. -/
def chosen? (catalog : Catalog) (preference : Preference) (protection : List LineItem)
    (quality : Option String) : Option Product :=
  match breakerCount protection with
  | .error _ => none
  | .ok breakers =>
    if breakers.isZero then none
    else (slotsFor breakers).toOption.bind fun slots =>
      productFor catalog preference (tierFor slots) quality

/-- A row that is sized: it shows the chosen enclosure, if there is one. -/
structure Sizes (chosen : Option Product) (before after : LineItem) : Prop where
  stays : Stays before after
  quantity : after.quantity = before.quantity
  productId : after.productId = chosen.elim before.productId (·.id)

theorem Sizes.refl {chosen : Option Product} (row : LineItem)
    (own : ∀ product, chosen = some product → product.id = row.productId) : Sizes chosen row row where
  stays := .refl row
  quantity := rfl
  productId := by
    cases chosen with
    | none => rfl
    | some product => exact (own product rfl).symm

/-- What sizing makes of the first enclosure row. -/
theorem resized_final {copy : Option LineItem} {diagnostics : List Diagnostic} {current : LineItem}
    (sized : resized catalog preference items protection = .ok (copy, diagnostics))
    (first : row? items = some current) :
    Sizes (chosen? catalog preference protection current.quality) current (copy.getD current) := by
  unfold resized at sized
  obtain ⟨breakers, counted, sized⟩ := bind_ok_iff.1 sized
  rw [first] at sized
  unfold chosen?
  rw [counted]
  dsimp only at sized ⊢
  split at sized
  · rename_i zero
    cases sized
    rw [if_pos zero]
    exact .refl current fun _ some => nomatch some
  · rename_i some
    rw [if_neg some]
    obtain ⟨slots, needed, sized⟩ := bind_ok_iff.1 sized
    rw [needed]
    show Sizes (productFor catalog preference (tierFor slots) current.quality) current _
    split at sized
    · rename_i missing
      cases sized
      rw [missing]
      exact .refl current fun _ some => nomatch some
    · rename_i product chosen
      rw [chosen]
      split at sized
      · rename_i same
        cases sized
        exact .refl current fun _ own => by cases own; exact same
      · obtain ⟨row, switched, same⟩ := bind_ok_iff.1 sized
        cases same
        have enclosure : current.group = .some ProductGroups.enclosure := by
          simpa using List.find?_some first
        obtain ⟨_, _, rfl⟩ := withProduct_ok switched
        exact ⟨⟨rfl, rfl, rfl, (productFor_group chosen).trans enclosure.symm, rfl⟩, rfl, rfl⟩

/-- A row in its own place changes nothing. -/
theorem replace_self (ids : (items.map (·.id)).Nodup) (present : row ∈ items) :
    replace row items = items := by
  have same := map_replace (g := fun item => item) fun item listed own =>
    (List.inj_on_of_nodup_map ids listed present own).symm
  rwa [List.map_id', List.map_id'] at same

theorem replace_replace {other : LineItem} (same : other.id = row.id) :
    replace other (replace row items) = replace other items := by
  unfold replace
  rw [List.map_map]
  refine List.map_congr_left fun item _ => ?_
  simp only [Function.comp_apply]
  split
  · rename_i own
    rw [if_pos same.symm, if_pos (own.trans same.symm)]
  · rfl

theorem replace_comm {other : LineItem} (apart : other.id ≠ row.id) :
    replace other (replace row items) = replace row (replace other items) := by
  unfold replace
  rw [List.map_map, List.map_map]
  refine List.map_congr_left fun item _ => ?_
  simp only [Function.comp_apply]
  by_cases own : item.id = row.id
  · have notOther : item.id ≠ other.id := fun same => apart (same.symm.trans own)
    rw [if_pos own, if_neg (Ne.symm apart), if_neg notOther, if_pos own]
  · by_cases isOther : item.id = other.id
    · rw [if_neg own, if_pos isOther, if_neg apart]
    · rw [if_neg own, if_neg isOther, if_neg own]

theorem mem_replace {other : LineItem} (present : other ∈ items) (apart : other.id ≠ row.id) :
    other ∈ replace row items :=
  List.mem_map.2 ⟨other, present, if_neg apart⟩

/-- Sizing depends on the first enclosure row and on the count of breakers alone. -/
theorem resized_congr {next devices : List LineItem} (first : row? items = row? next)
    (breakers : breakerCount protection = breakerCount devices) :
    resized catalog preference items protection = resized catalog preference next devices := by
  unfold resized
  rw [first, breakers]

/-- The count of breakers is told from the groups and the quantities of the rows. -/
theorem breakerCount_congr {next : List LineItem}
    (same : items.map (fun item => (item.group, item.quantity)) =
      next.map fun item => (item.group, item.quantity)) :
    breakerCount items = breakerCount next := by
  have eq : ∀ rows : List LineItem, breakerCount rows = Number.sum
      (((rows.map fun item => (item.group, item.quantity)).filter fun pair =>
        ProductGroups.isIn ProductGroups.breakers pair.1).map (·.2)) := by
    intro rows
    unfold breakerCount
    rw [List.filter_map, List.map_map]
    rfl
  rw [eq, eq, same]

/-- A row of the same group and quantity in place of another counts alike. -/
theorem breakerCount_replace
    (same : ∀ item ∈ items, item.id = row.id →
      row.group = item.group ∧ row.quantity = item.quantity) :
    breakerCount (replace row items) = breakerCount items := by
  refine breakerCount_congr (map_replace fun item listed own => ?_)
  obtain ⟨group, quantity⟩ := same item listed own
  rw [group, quantity]

end Enclosure

/-! ## Stages -/

/-- A row with the id shows the product, in the same quantity and with the same multiplier; any other row
is the same. -/
def LineItem.SwapsTo (id productId : String) (row next : LineItem) : Prop :=
  if row.id = id then next.id = id ∧ next.productId = productId ∧ next.quantity = row.quantity ∧
    next.hoursMultiplier = row.hoursMultiplier
  else next = row

/-- Two rows in one place. -/
theorem LineItem.SwapsTo.replace {id productId : String} {row next : LineItem}
    (swaps : SwapsTo id productId row next) (own : row.id = id) (items : List LineItem) :
    List.Forall₂ (SwapsTo id productId) (Enclosure.replace row items)
      (Enclosure.replace next items) := by
  have nextOwn : next.id = id := by
    unfold SwapsTo at swaps
    rw [if_pos own] at swaps
    exact swaps.1
  unfold Enclosure.replace
  rw [List.forall₂_map_left_iff, List.forall₂_map_right_iff, List.forall₂_same, own, nextOwn]
  intro item _
  split
  · exact swaps
  · rename_i other
    exact (if_neg other).mpr rfl

/-- A row in the place of one that is there. -/
theorem LineItem.SwapsTo.replaced {id productId : String} {row next : LineItem}
    (swaps : SwapsTo id productId row next) (own : row.id = id) {items : List LineItem}
    (ids : (items.map (·.id)).Nodup) (present : row ∈ items) :
    List.Forall₂ (SwapsTo id productId) items (Enclosure.replace next items) := by
  have pairs := swaps.replace own items
  rwa [Enclosure.replace_self ids present] at pairs

/-- The product that a row shows after sizing: the chosen enclosure if the row is the first enclosure, else
its own. -/
def Enclosure.sizedId (catalog : Catalog) (preference : Preference) (items protection : List LineItem)
    (id productId : String) (quality : Option String) : String :=
  if (row? items).map (·.id) = some id then
    (chosen? catalog preference protection quality).elim productId (·.id)
  else productId

namespace Configuration.Stages

variable {catalog : Catalog} {revise again : Revision} {configuration : Configuration}
  {stages next : Stages}

/-- The rows of the last stage: the revised ones, with the sized row in the place of the first
enclosure. -/
theorem Of.items_eq (of : stages.Of catalog revise configuration)
    (ids : (stages.revised.map (·.id)).Nodup) : stages.items =
      (Enclosure.row? stages.revised).elim stages.revised fun current =>
        Enclosure.replace (stages.copy.getD current) stages.revised := by
  unfold Stages.items
  cases copied : stages.copy with
  | some row =>
    obtain ⟨_, _, _, _, _, _, _, first, _⟩ := Enclosure.resized_some (copied ▸ of.sized)
    rw [first]
    rfl
  | none =>
    cases first : Enclosure.row? stages.revised with
    | none => rfl
    | some current =>
      show stages.revised = Enclosure.replace current stages.revised
      rw [Enclosure.replace_self ids (List.mem_of_find?_eq_some first)]

/-- The same rows are sized alike for as many breakers. -/
theorem Of.items_congr (of : stages.Of catalog revise configuration)
    (ofNext : next.Of catalog again configuration) (revised : next.revised = stages.revised)
    (breakers : Enclosure.breakerCount next.protection = Enclosure.breakerCount stages.protection) :
    next.items = stages.items := by
  have sized := ofNext.sized
  rw [revised, Enclosure.resized_congr rfl breakers, of.sized] at sized
  have copies : next.copy = stages.copy := (Prod.mk.inj (Except.ok.inj sized)).1.symm
  unfold Stages.items
  rw [copies, revised]

/-- What a row keeps when it is sized, the rows keep. -/
theorem Of.items_map (of : stages.Of catalog revise configuration)
    (ids : (stages.revised.map (·.id)).Nodup) {β : Type} {g : LineItem → β}
    (kept : ∀ chosen before after, Enclosure.Sizes chosen before after → g after = g before) :
    stages.items.map g = stages.revised.map g := by
  rw [of.items_eq ids]
  cases first : Enclosure.row? stages.revised with
  | none => rfl
  | some current =>
    have sizes := Enclosure.resized_final of.sized first
    refine Enclosure.map_replace fun item listed own => ?_
    rw [List.inj_on_of_nodup_map ids listed (List.mem_of_find?_eq_some first)
      (own.trans sizes.stays.id)]
    exact kept _ _ _ sizes

/-- A row of the last stage stays what the revised row with its id is. -/
theorem Of.items_stays (of : stages.Of catalog revise configuration)
    (ids : (stages.revised.map (·.id)).Nodup) {row : LineItem} (listed : row ∈ stages.items) :
    ∃ before ∈ stages.revised, Stays before row := by
  rw [of.items_eq ids] at listed
  cases first : Enclosure.row? stages.revised with
  | none =>
    rw [first] at listed
    exact ⟨row, listed, .refl row⟩
  | some current =>
    rw [first] at listed
    have stays := (Enclosure.resized_final of.sized first).stays
    obtain ⟨item, present, placed⟩ := List.mem_map.1 listed
    split at placed
    · exact ⟨current, List.mem_of_find?_eq_some first, placed ▸ stays⟩
    · exact ⟨item, present, placed ▸ .refl item⟩

/-- A revised row that is no enclosure is a row of the last stage. -/
theorem Of.mem_items (of : stages.Of catalog revise configuration)
    (ids : (stages.revised.map (·.id)).Nodup) {row : LineItem} (present : row ∈ stages.revised)
    (other : row.group ≠ some ProductGroups.enclosure) : row ∈ stages.items := by
  rw [of.items_eq ids]
  cases first : Enclosure.row? stages.revised with
  | none => exact present
  | some current =>
    refine Enclosure.mem_replace present fun own => other ?_
    have isCurrent : row = current := List.inj_on_of_nodup_map ids present
      (List.mem_of_find?_eq_some first) (own.trans (Enclosure.resized_final of.sized first).stays.id)
    rw [isCurrent]
    simpa using List.find?_some first

/-- The first enclosure of the last stage is the revised one, by its id. -/
theorem Of.row?_items (of : stages.Of catalog revise configuration)
    (ids : (stages.revised.map (·.id)).Nodup) :
    (Enclosure.row? stages.items).map (·.id) = (Enclosure.row? stages.revised).map (·.id) := by
  rw [of.items_eq ids]
  cases first : Enclosure.row? stages.revised with
  | none =>
    show (Enclosure.row? stages.revised).map (·.id) = _
    rw [first]
  | some current =>
    have stays := (Enclosure.resized_final of.sized first).stays
    show (Enclosure.row? (Enclosure.replace (stages.copy.getD current) stages.revised)).map (·.id) = _
    rw [Enclosure.row?_replace fun item listed same => ?_, first, Option.map_some,
      if_pos stays.id.symm, Option.map_some, Option.map_some, stays.id]
    rw [List.inj_on_of_nodup_map ids listed (List.mem_of_find?_eq_some first) (same.trans stays.id)]
    exact stays.group

section Swapped

variable (of : stages.Of catalog revise configuration) (ofNext : next.Of catalog again configuration)
  (ids : (stages.revised.map (·.id)).Nodup) {row reswapped : LineItem} (present : row ∈ stages.revised)
  (replaced : next.revised = Enclosure.replace reswapped stages.revised) (stays : Stays row reswapped)

include ids present replaced stays

/-- The first enclosure is the same, or the replaced row. -/
theorem row?_swapped : Enclosure.row? next.revised = (Enclosure.row? stages.revised).map fun item =>
    if item.id = reswapped.id then reswapped else item := by
  rw [replaced]
  refine Enclosure.row?_replace fun item listed same => ?_
  rw [List.inj_on_of_nodup_map ids listed present (same.trans stays.id)]
  exact stays.group

include of ofNext

/-- The first enclosure row is sized before and after. -/
theorem Of.items_swapped_first (first : Enclosure.row? stages.revised = some row)
    (quantity : reswapped.quantity = row.quantity) :
    List.Forall₂ (SwapsTo row.id (next.copy.getD reswapped).productId) stages.items next.items ∧
      (next.copy.getD reswapped).productId = (Enclosure.chosen? catalog configuration.preference
        next.protection reswapped.quality).elim reswapped.productId (·.id) := by
  have firstNext : Enclosure.row? next.revised = some reswapped := by
    rw [row?_swapped ids present replaced stays, first, Option.map_some, if_pos stays.id.symm]
  have idsNext : (next.revised.map (·.id)).Nodup := by rwa [replaced, Enclosure.replace_ids]
  have sizes := Enclosure.resized_final of.sized first
  have sizesNext := Enclosure.resized_final ofNext.sized firstNext
  refine ⟨?_, sizesNext.productId⟩
  rw [of.items_eq ids, ofNext.items_eq idsNext, first, firstNext]
  show List.Forall₂ _ (Enclosure.replace (stages.copy.getD row) stages.revised)
    (Enclosure.replace (next.copy.getD reswapped) next.revised)
  rw [replaced, Enclosure.replace_replace sizesNext.stays.id]
  have swaps : SwapsTo row.id (next.copy.getD reswapped).productId (stages.copy.getD row)
      (next.copy.getD reswapped) := (if_pos sizes.stays.id).mpr {
    left := sizesNext.stays.id.trans stays.id
    right := ⟨rfl, (sizesNext.quantity.trans quantity).trans sizes.quantity.symm,
      (sizesNext.stays.hoursMultiplier.trans stays.hoursMultiplier).trans
        sizes.stays.hoursMultiplier.symm⟩ }
  exact swaps.replace sizes.stays.id _

/-- Where the row is not the first enclosure, the same other row is sized, or none. -/
theorem Of.items_swapped_other (protection : next.protection = stages.protection)
    (other : (Enclosure.row? stages.revised).map (·.id) ≠ some row.id) :
    Enclosure.row? next.revised = Enclosure.row? stages.revised ∧ row ∈ stages.items ∧
      next.items = Enclosure.replace reswapped stages.items := by
  have firstNext : Enclosure.row? next.revised = Enclosure.row? stages.revised := by
    rw [row?_swapped ids present replaced stays]
    cases first : Enclosure.row? stages.revised with
    | none => rfl
    | some current =>
      rw [first] at other
      exact congrArg some (if_neg fun own => other (congrArg some (own.trans stays.id)))
  have copies : next.copy = stages.copy := by
    have sized := ofNext.sized
    rw [protection, Enclosure.resized_congr firstNext rfl, of.sized] at sized
    exact (Prod.mk.inj (Except.ok.inj sized)).1.symm
  refine ⟨firstNext, ?_⟩
  unfold Stages.items
  rw [copies]
  cases copied : stages.copy with
  | none => exact ⟨present, replaced⟩
  | some sizedRow =>
    obtain ⟨_, _, current, _, _, _, _, first, _, _, switched⟩ :=
      Enclosure.resized_some (copied ▸ of.sized)
    have apart : row.id ≠ sizedRow.id := by
      intro own
      rw [first, Option.map_some, ← (withProduct_keeps switched).1.id, ← own] at other
      exact other rfl
    refine ⟨Enclosure.mem_replace present apart, ?_⟩
    show Enclosure.replace sizedRow next.revised =
      Enclosure.replace reswapped (Enclosure.replace sizedRow stages.revised)
    rw [replaced, Enclosure.replace_comm (stays.id ▸ apart.symm)]

/-- A revised row that is replaced by one of its group and its quantity is replaced in the last stage as
well, by what sizing makes of it. -/
theorem Of.items_swapped (protection : next.protection = stages.protection)
    (quantity : reswapped.quantity = row.quantity) :
    List.Forall₂ (SwapsTo row.id (Enclosure.sizedId catalog configuration.preference next.revised
      next.protection row.id reswapped.productId reswapped.quality)) stages.items next.items := by
  unfold Enclosure.sizedId
  by_cases isFirst : (Enclosure.row? stages.revised).map (·.id) = some row.id
  · obtain ⟨current, first, own⟩ := Option.map_eq_some_iff.1 isFirst
    obtain rfl : current = row :=
      List.inj_on_of_nodup_map ids (List.mem_of_find?_eq_some first) present own
    obtain ⟨pairs, shows⟩ :=
      of.items_swapped_first ofNext ids present replaced stays first quantity
    rw [row?_swapped ids present replaced stays, first, Option.map_some, if_pos stays.id.symm,
      Option.map_some, if_pos (congrArg some stays.id), ← shows]
    exact pairs
  · obtain ⟨firstNext, stillThere, items⟩ :=
      of.items_swapped_other ofNext ids present replaced stays protection isFirst
    have swaps : SwapsTo row.id reswapped.productId row reswapped :=
      (if_pos rfl).mpr ⟨stays.id, rfl, quantity, stays.hoursMultiplier⟩
    rw [firstNext, if_neg isFirst, items]
    exact swaps.replaced rfl (by rwa [stages.items_ids]) stillThere

end Swapped

end Configuration.Stages

end WiringQuote
