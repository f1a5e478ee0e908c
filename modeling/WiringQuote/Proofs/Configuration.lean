import WiringQuote.Configuration
import WiringQuote.Proofs.LineItem.Rows

/-!
# The stages of a configuration

A configuration is resolved in stages, and each product row is found by its id from one stage to the
next. The last stage may switch the enclosure row to another product after the rows were merged.

* `resolve_ok_iff`: resolving succeeds exactly if every stage does, and what it then yields.
* `pairs_nodup_iff`: the rows have distinct pairs of selected package and product exactly if the
  switched enclosure row meets no other row, and no row of the protection package shares the product
  of a device.
-/

namespace WiringQuote

open Fallible LineItem

/-! ## Enclosures -/

namespace Enclosure

variable {catalog : Catalog} {preference : Preference} {items protection : List LineItem}
  {row : LineItem} {diagnostics : List Diagnostic}

/-- A row is switched where there are breakers and a product for the tier that they need. -/
theorem resized_some
    (sized : resized catalog preference items protection = .ok (some row, diagnostics)) :
    diagnostics = [] ∧ ∃ breakers current slots product,
      breakerCount protection = .ok breakers ∧ breakers.isZero = false ∧
      row? items = some current ∧ slotsFor breakers = .ok slots ∧
      productFor catalog preference (tierFor slots) current.quality = some product ∧
      current.withProduct product = .ok row := by
  unfold resized at sized
  obtain ⟨breakers, counted, sized⟩ := bind_ok_iff.1 sized
  split at sized
  · cases sized
  · rename_i current first
    split at sized
    · cases sized
    · rename_i some
      obtain ⟨slots, needed, sized⟩ := bind_ok_iff.1 sized
      dsimp only at sized
      split at sized
      · cases sized
      · rename_i product chosen
        split at sized
        · cases sized
        · obtain ⟨copy, switched, same⟩ := bind_ok_iff.1 sized
          cases same
          exact ⟨rfl, breakers, current, slots, product, counted, by simpa using some, first, needed,
            chosen, switched⟩

/-- A resized copy is the copy of one of the rows. -/
theorem resized_keeps
    (sized : resized catalog preference items protection = .ok (some row, diagnostics)) :
    ∃ current ∈ items, Keeps current row := by
  obtain ⟨_, _, current, _, _, _, _, first, _, _, switched⟩ := resized_some sized
  exact ⟨current, List.mem_of_find?_eq_some first, (withProduct_keeps switched).1⟩

end Enclosure

/-! ## Stages -/

namespace Configuration

/-- What the stages of resolving a configuration yield. -/
structure Stages where
  quantities : Resolution
  built : LineItem.Sheet
  /-- The product rows after removals, swaps and set quantities. -/
  revised : List LineItem
  derived : LineItem.Sheet
  protection : List LineItem
  /-- The enclosure row with its new product, if it is switched. -/
  copy : Option LineItem
  enclosure : List Diagnostic

namespace Stages

/-- Each stage yields what is listed. -/
structure Of (catalog : Catalog) (revise : Revision) (configuration : Configuration)
    (stages : Stages) : Prop where
  quantities : Resolution.resolve catalog configuration.instances configuration.globals =
    .ok stages.quantities
  built : LineItem.build catalog configuration.preference stages.quantities = .ok stages.built
  revised : revise stages.built.rows.values = .ok stages.revised
  derived : Protection.derive catalog configuration.preference stages.revised = .ok stages.derived
  protection : revise stages.derived.rows.values = .ok stages.protection
  sized : Enclosure.resized catalog configuration.preference stages.revised stages.protection =
    .ok (stages.copy, stages.enclosure)

/-- The product rows with the switched enclosure row in its place. -/
def items (stages : Stages) : List LineItem :=
  match stages.copy with
  | none => stages.revised
  | some row => stages.revised.map fun item => if item.id = row.id then row else item

/-- What the stages come down to. -/
def result (stages : Stages) : Result where
  items := stages.items
  protection := stages.protection
  quantities := stages.quantities
  diagnostics := stages.quantities.diagnostics ++ stages.built.diagnostics ++
    stages.derived.diagnostics ++ stages.enclosure

end Stages

/-- Resolving succeeds exactly if every stage does. -/
theorem resolve_ok_iff {catalog : Catalog} {revise : Revision} {configuration : Configuration}
    {result : Result} : resolve catalog revise configuration = .ok result ↔
      ∃ stages : Stages, stages.Of catalog revise configuration ∧ stages.result = result := by
  unfold resolve Enclosure.resize
  simp only [bind_ok_iff, pure_ok_iff]
  constructor
  · rintro ⟨quantities, q, built, b, revised, r, derived, d, protection, p, sized,
      ⟨⟨copy, enclosure⟩, s, rfl⟩, rfl⟩
    refine ⟨⟨quantities, built, revised, derived, protection, copy, enclosure⟩,
      ⟨q, b, r, d, p, s⟩, ?_⟩
    cases copy <;> rfl
  · rintro ⟨stages, of, rfl⟩
    refine ⟨stages.quantities, of.quantities, stages.built, of.built, stages.revised, of.revised,
      stages.derived, of.derived, stages.protection, of.protection,
      (stages.items, stages.enclosure), ⟨(stages.copy, stages.enclosure), of.sized, ?_⟩, rfl⟩
    unfold Stages.items
    cases stages.copy <;> rfl

end Configuration

/-! ## Rows after the last stage -/

/-- A revision of rows with distinct ids merges those with one pair, and makes no new ids. -/
structure Revision.Tidy (revise : Revision) : Prop where
  pairs : ∀ items rows, (items.map (·.id)).Nodup → revise items = .ok rows → (rows.map pair).Nodup
  ids : ∀ items rows, (items.map (·.id)).Nodup → revise items = .ok rows →
    (rows.map (·.id)).Nodup
  origin : ∀ items rows, (items.map (·.id)).Nodup → revise items = .ok rows →
    ∀ row ∈ rows, ∃ item ∈ items, Keeps item row

/-- A row that takes the place of the one with its id leaves a list free of doubles exactly if it
meets no other row. -/
theorem nodup_replace_iff {β : Type} {items : List LineItem} {row : LineItem} {g : LineItem → β}
    (ids : (items.map (·.id)).Nodup) (distinct : (items.map g).Nodup)
    (placed : ∃ current ∈ items, current.id = row.id) :
    ((items.map fun item => if item.id = row.id then row else item).map g).Nodup ↔
      ∀ other ∈ items, other.id ≠ row.id → g other ≠ g row := by
  obtain ⟨current, present, own⟩ := placed
  rw [List.map_map]
  constructor
  · intro nodup other inItems otherId meets
    -- Another row with the value of the new one would be the row that was replaced.
    have same : other = current := by
      refine List.inj_on_of_nodup_map nodup inItems present ?_
      simp only [Function.comp_apply, own, otherId, if_true, if_false, meets]
    exact otherId (same ▸ own)
  · intro apart
    refine List.Nodup.map_on (fun x inX y inY same => ?_) ids.of_map
    simp only [Function.comp_apply] at same
    split at same <;> split at same
    · rename_i first second
      exact List.inj_on_of_nodup_map ids inX inY (first.trans second.symm)
    · rename_i _ second
      exact absurd same.symm (apart y inY second)
    · rename_i first _
      exact absurd same (apart x inX first)
    · exact List.inj_on_of_nodup_map distinct inX inY same

namespace Configuration.Stages

/-- The switched enclosure row meets another row of its selected package with its new product. -/
def Doubles (stages : Stages) : Prop :=
  ∃ row, stages.copy = some row ∧
    ∃ other ∈ stages.revised, other.id ≠ row.id ∧ other.pair = row.pair

/-- A selected package has the name of the protection package, and a row of it has the product of a
device. -/
def SharesDevice (stages : Stages) : Prop :=
  ∃ item ∈ stages.items, item.instanceId = Protection.instanceId ∧
    ∃ device ∈ stages.protection, device.productId = item.productId

variable {catalog : Catalog} {revise : Revision} {configuration : Configuration} {stages : Stages}

section Tidy

variable (tidy : revise.Tidy) (of : stages.Of catalog revise configuration)

include tidy of

theorem items_pairs_nodup_iff : (stages.items.map pair).Nodup ↔ ¬ stages.Doubles := by
  have built := build_ids_nodup of.built
  have pairs := tidy.pairs _ _ built of.revised
  cases copied : stages.copy with
  | none => simp only [items, Doubles, copied, pairs, reduceCtorEq, false_and, exists_false,
      not_false_eq_true]
  | some row =>
    have ids := tidy.ids _ _ built of.revised
    obtain ⟨current, present, kept⟩ := Enclosure.resized_keeps (copied ▸ of.sized)
    simp only [items, Doubles, copied]
    rw [nodup_replace_iff ids pairs ⟨current, present, kept.id.symm⟩]
    simp

theorem protection_pairs_nodup : (stages.protection.map pair).Nodup :=
  tidy.pairs _ _ (Protection.derive_ids_nodup of.derived) of.protection

theorem protection_placed {device : LineItem} (present : device ∈ stages.protection) :
    device.instanceId = Protection.instanceId := by
  obtain ⟨row, derived, kept⟩ :=
    tidy.origin _ _ (Protection.derive_ids_nodup of.derived) of.protection device present
  exact kept.instanceId.trans (Protection.derive_placed of.derived derived)

/-- The rows have distinct pairs exactly if the switched enclosure row meets no other row, and no row
has the pair of a protection device. -/
theorem pairs_nodup_iff :
    (stages.result.all.map pair).Nodup ↔ ¬ stages.Doubles ∧ ¬ stages.SharesDevice := by
  have apart : (∀ p ∈ stages.items.map pair, ∀ q ∈ stages.protection.map pair, p ≠ q) ↔
      ¬ stages.SharesDevice := by
    constructor
    · rintro distinct ⟨item, present, own, device, listed, same⟩
      refine distinct _ (List.mem_map.2 ⟨item, present, rfl⟩) _
        (List.mem_map.2 ⟨device, listed, rfl⟩) ?_
      exact Prod.ext (own.trans (protection_placed tidy of listed).symm) same.symm
    · intro unshared p inItems q inProtection same
      obtain ⟨item, present, rfl⟩ := List.mem_map.1 inItems
      obtain ⟨device, listed, rfl⟩ := List.mem_map.1 inProtection
      obtain ⟨sameInstance, sameProduct⟩ := Prod.mk.inj same
      exact unshared ⟨item, present, sameInstance.trans (protection_placed tidy of listed), device,
        listed, sameProduct.symm⟩
  unfold Result.all result
  rw [List.map_append, List.nodup_append, items_pairs_nodup_iff tidy of, apart,
    and_iff_right (protection_pairs_nodup tidy of)]

end Tidy

end Configuration.Stages

end WiringQuote
