import WiringQuote.Proofs.Session.Shown

/-!
# Rows that were made

The hours of a row are computed in binary64 when it is made and whenever its product or its quantity
changes. Where that succeeded once, it does so again: a row that was made can be switched to any product.

* `Made.convertible`: the multiplier and the quantity of a row that was made are in range.
* `Store.revised_made`: the rows among which the enclosure is sized were made.
-/

namespace WiringQuote

open Fallible LineItem

namespace LineItem

/-- Rows come about by being made, and by merging, switching and counting rows that were made; the rules
and figures that are noted for a row are no part of it. -/
inductive Made : LineItem → Prop where
  | make {place : Placement} {product : Product} {quantity multiplier : Number}
      {calculated : Option Float} {isProtection : Bool} {row : LineItem}
      (made : make place product quantity multiplier calculated isProtection = .ok row) : Made row
  | merge {target other row : LineItem} (own : Made target) (merged : target.merge other = .ok row) :
      Made row
  | switch {item row : LineItem} {product : Product} (own : Made item)
      (switched : item.withProduct product = .ok row) : Made row
  | count {item row : LineItem} {quantity : Number} (own : Made item)
      (counted : item.withQuantity quantity = .ok row) : Made row
  | note {item row : LineItem} (own : Made item) (quantity : row.quantity = item.quantity)
      (multiplier : row.hoursMultiplier = item.hoursMultiplier) : Made row

/-- The multiplier and the quantity of a row are in range. -/
def Convertible (item : LineItem) : Prop :=
  (∃ x, item.hoursMultiplier.toFloat = .ok x) ∧ ∃ x, item.quantity.toFloat = .ok x

theorem convertible_of_make {place : Placement} {product : Product} {quantity multiplier : Number}
    {calculated : Option Float} {isProtection : Bool} {row : LineItem}
    (made : make place product quantity multiplier calculated isProtection = .ok row) :
    row.Convertible := by
  have fields := make_fields made
  unfold Convertible
  rw [fields.2.1, fields.2.2]
  unfold LineItem.make unitHours hoursFor at made
  simp only [bind_ok_iff] at made
  obtain ⟨_, ⟨factor, known, _⟩, _, ⟨units, counted, _⟩, _⟩ := made
  exact ⟨⟨factor, known⟩, units, counted⟩

/-- The hours of a row that was made can be computed again. -/
theorem Made.convertible {item : LineItem} (made : item.Made) : item.Convertible := by
  induction made with
  | make made => exact convertible_of_make made
  | merge _ merged ih =>
    obtain ⟨quantity, added, inRange⟩ := exists_merge_iff.1 ⟨_, merged⟩
    obtain ⟨_, _, _, _, known, rfl⟩ := merge_ok merged
    rw [known] at added
    cases added
    exact ⟨ih.1, inRange⟩
  | switch _ switched ih =>
    obtain ⟨_, _, rfl⟩ := withProduct_ok switched
    exact ih
  | count _ counted ih =>
    have inRange := exists_withQuantity_iff.1 ⟨_, counted⟩
    obtain ⟨_, rfl⟩ := withQuantity_ok counted
    exact ⟨ih.1, inRange⟩
  | note _ quantity multiplier ih =>
    unfold Convertible
    rw [quantity, multiplier]
    exact ih

theorem Made.ofRule {package : Option Package} {resolved : ResolvedRule} {product : Product}
    {row : LineItem} (made : LineItem.ofRule package resolved product = .ok row) : row.Made := by
  unfold LineItem.ofRule at made
  obtain ⟨_, _, made⟩ := bind_ok_iff.1 made
  obtain ⟨_, _, made⟩ := bind_ok_iff.1 made
  obtain ⟨item, own, same⟩ := bind_ok_iff.1 made
  cases same
  exact .note (.make own) rfl rfl

end LineItem

namespace Store

variable {reference : Reference} {store : Store}

theorem preserves_made : store.Preserves reference Made where
  merge _ _ _ own _ merged := .merge own merged
  switch _ _ _ own _ switched := .switch own switched
  quantity _ _ _ own _ counted := .count own counted
  value _ own := .note own rfl rfl

theorem makes_made : store.Makes reference Made where
  rule _ _ _ _ _ _ _ made := .ofRule made
  device _ _ _ _ _ _ _ _ _ _ _ made := .make made

/-- The rows among which the enclosure of a store is sized were made. -/
theorem revised_made {stages : Configuration.Stages}
    (of : stages.Of reference.catalog
      (store.overlay.revise reference.catalog (store.configuration reference).location)
      (store.configuration reference)) : ∀ row ∈ stages.revised, row.Made :=
  preserves_made.revised of (makes_made.built preserves_made of)

end Store

end WiringQuote
