import Mathlib.Data.List.Find
import WiringQuote.Proofs.Catalog.Offered
import WiringQuote.Proofs.Session.Revision

/-!
# Derived rows stay as they are

Protection devices are derived before the enclosure is sized, and the enclosure is then switched to a
product of another quality. Neither has to be done again: the enclosure is no consumer, and the new
product is chosen again from its own quality.

* `productFor_stable`: the product for a tier is chosen again, starting from its quality.
* `resized_again`: sizing the enclosure a second time changes nothing.
* `resolve_fixedPoint`: the rows of a configuration are what their last stages make of them.
-/

namespace WiringQuote

open Fallible LineItem

/-! ## Enclosures -/

namespace Enclosure

variable {catalog : Catalog} {preference : Preference}

/-- The product for a tier is an enclosure. -/
theorem productFor_group {tier : Int} {quality : Option String} {product : Product}
    (chosen : productFor catalog preference tier quality = some product) :
    product.group = some ProductGroups.enclosure := by
  have available := (List.mem_filter.1 (productFor_mem chosen)).1
  have listed := (List.mem_filter.1 available).1
  exact of_decide_eq_true (List.mem_filter.1 listed).2

/-- The product for a tier is chosen again, starting from its own quality. -/
theorem productFor_stable {tier : Int} {quality : Option String} {product : Product}
    (chosen : productFor catalog preference tier quality = some product) :
    productFor catalog preference tier product.quality = some product := by
  rw [productFor_some_iff] at chosen ⊢
  generalize ofTier catalog preference.location tier = candidates at chosen ⊢
  -- The first product of its quality is the best one where that quality comes first.
  have own : ∀ level, level.isEmpty = false → product.quality = some level →
      candidates.find? (fun other => other.quality = some level) = some product →
      Catalog.bestOf candidates (Quality.chain [product.quality, preference.globalQuality]) =
        some product := by
    intro level named quality first
    obtain ⟨rest, chain⟩ := Quality.chain_cons named [preference.globalQuality]
    rw [quality, chain, Catalog.bestOf_cons, first, Option.some_or]
  rcases chosen with best | ⟨nothing, first⟩
  · obtain ⟨level, listed, found⟩ := Catalog.bestOf_some best
    have quality : product.quality = some level := by simpa using List.find?_some found
    exact .inl (own level (Quality.mem_chain_iff.1 listed).2 quality found)
  · by_cases named : ∃ level, product.quality = some level ∧ level.isEmpty = false
    · obtain ⟨level, quality, some⟩ := named
      obtain ⟨rest, rfl⟩ := List.head?_eq_some_iff.1 first
      exact .inl (own level some quality (List.find?_cons_of_pos (decide_eq_true quality)))
    · -- A product without a quality asks for no tier that was not tried before.
      refine .inr ⟨?_, first⟩
      rw [Catalog.bestOf_none_iff] at nothing ⊢
      intro level listed
      obtain ⟨asked, notBlank⟩ := Quality.mem_chain_iff.1 listed
      refine nothing level (Quality.mem_chain_iff.2 ⟨?_, notBlank⟩)
      rcases asked with requested | fallback
      · rcases List.mem_cons.1 requested with own | global
        · exact absurd ⟨level, own.symm, notBlank⟩ named
        · exact .inl (List.mem_cons_of_mem _ global)
      · exact .inr fallback

/-! ### Sizing twice -/

variable {items protection : List LineItem} {row : LineItem} {diagnostics : List Diagnostic}

/-- Puts a row in the place of the one with its id. -/
def replace (row : LineItem) (items : List LineItem) : List LineItem :=
  items.map fun item => if item.id = row.id then row else item

/-- What a row has in common with the one that it replaces stays. -/
theorem map_replace {β : Type} {g : LineItem → β}
    (same : ∀ item ∈ items, item.id = row.id → g row = g item) :
    (replace row items).map g = items.map g := by
  unfold replace
  rw [List.map_map]
  refine List.map_congr_left fun item listed => ?_
  simp only [Function.comp_apply]
  split
  · rename_i own
    exact same item listed own
  · rfl

theorem replace_ids (row : LineItem) (items : List LineItem) :
    (replace row items).map (·.id) = items.map (·.id) :=
  map_replace fun _ _ own => own.symm

/-- A row of the same group is found in the place of the one that it replaces. -/
theorem row?_replace (group : ∀ item ∈ items, item.id = row.id → row.group = item.group) :
    row? (replace row items) = (row? items).map fun item => if item.id = row.id then row else item := by
  unfold row? replace
  rw [List.find?_map]
  refine congrArg (Option.map _) (List.find?_congr fun item listed => ?_)
  simp only [Function.comp_apply]
  split
  · rename_i same
    rw [group item listed same]
  · rfl

/-- Sizing the enclosure a second time changes nothing. -/
theorem resized_again (ids : (items.map (·.id)).Nodup)
    (sized : resized catalog preference items protection = .ok (some row, diagnostics)) :
    resized catalog preference (replace row items) protection = .ok (none, diagnostics) := by
  obtain ⟨rfl, breakers, current, slots, product, counted, some, first, needed, chosen, switched⟩ :=
    resized_some sized
  have kept := (withProduct_keeps switched).1
  have shows := withProduct_shows switched
  have again : row? (replace row items) = .some row := by
    have group : ∀ item ∈ items, item.id = row.id → row.group = item.group := by
      intro item listed same
      have isCurrent : item = current := List.inj_on_of_nodup_map ids listed
        (List.mem_of_find?_eq_some first) (same.trans kept.id)
      have before : current.group = .some ProductGroups.enclosure := by
        simpa using List.find?_some first
      rw [isCurrent, shows.group, productFor_group chosen, before]
    rw [row?_replace group, first, Option.map_some, if_pos kept.id.symm]
  have stable := productFor_stable chosen
  rw [← shows.quality] at stable
  unfold resized
  simp only [counted, again, some, needed, stable, shows.productId, bind, Except.bind]
  rfl

end Enclosure

/-! ## Consumers -/

namespace Consumers

/-- An enclosure is no consumer. -/
theorem addItem_enclosure (consumers : Consumers) {item : LineItem}
    (group : item.group = some ProductGroups.enclosure) : consumers.addItem item = .ok consumers := by
  unfold addItem
  rw [group]
  split
  · rfl
  · rfl

/-- A row that counts as much as the one that it replaces changes no count. -/
theorem ofItems_replace {items : List LineItem} {row : LineItem}
    (same : ∀ item ∈ items, item.id = row.id → ∀ consumers : Consumers,
      consumers.addItem row = consumers.addItem item) :
    ofItems (Enclosure.replace row items) = ofItems items := by
  unfold ofItems Enclosure.replace
  rw [List.foldlM_map]
  refine foldlM_congr (fun item listed consumers => ?_) none
  split
  · rename_i replaced
    exact same item listed replaced consumers
  · rfl

end Consumers

/-! ## Configurations -/

/-- No revision at all, or the removals, swaps and set quantities of a user. -/
def Revision.IsOverlay (revise : Revision) : Prop :=
  revise = .none ∨ ∃ overlay : Overlay, ∃ known location, revise = overlay.revise known location

theorem Revision.IsOverlay.ids_nodup {revise : Revision} {items rows : List LineItem}
    (hook : revise.IsOverlay) (ids : (items.map (·.id)).Nodup) (revised : revise items = .ok rows) :
    (rows.map (·.id)).Nodup := by
  rcases hook with rfl | ⟨overlay, known, location, rfl⟩
  · exact Except.ok.inj revised ▸ ids
  · exact Overlay.revise_ids_nodup ids revised

namespace Configuration

variable {catalog : Catalog} {revise : Revision} {configuration : Configuration}

/-- Sizing the enclosure leaves the ids of product rows. -/
theorem Stages.items_ids (stages : Stages) : stages.items.map (·.id) = stages.revised.map (·.id) := by
  unfold items
  split
  · rfl
  · exact Enclosure.replace_ids _ _

/-- The enclosure row of the result is sized already, and the counts of consumers are still those
that the protection devices were derived from. -/
theorem Stages.Of.settled {stages : Stages} (of : stages.Of catalog revise configuration)
    (ids : (stages.revised.map (·.id)).Nodup) :
    Consumers.ofItems stages.items = Consumers.ofItems stages.revised ∧
      Enclosure.resized catalog configuration.preference stages.items stages.protection =
        .ok (none, stages.enclosure) := by
  have sized := of.sized
  unfold Stages.items
  cases copied : stages.copy with
  | none =>
    rw [copied] at sized
    exact ⟨rfl, sized⟩
  | some row =>
    rw [copied] at sized
    obtain ⟨_, _, current, _, product, _, _, first, _, chosen, switched⟩ := Enclosure.resized_some sized
    have kept := (withProduct_keeps switched).1
    have before : current.group = some ProductGroups.enclosure := by simpa using List.find?_some first
    have after := (withProduct_shows switched).group.trans (Enclosure.productFor_group chosen)
    refine ⟨Consumers.ofItems_replace fun item listed same consumers => ?_,
      Enclosure.resized_again ids sized⟩
    have isCurrent : item = current := List.inj_on_of_nodup_map ids listed
      (List.mem_of_find?_eq_some first) (same.trans kept.id)
    rw [isCurrent, Consumers.addItem_enclosure consumers before,
      Consumers.addItem_enclosure consumers after]

/-- Where resolving completes, the rows are what their last stages make of them: the counts of
consumers are those that the protection devices were derived from, deriving and revising the devices
again yields them again with the same diagnostics, and sizing the enclosure again changes nothing. -/
theorem resolve_fixedPoint {result : Result} (hook : Revision.IsOverlay revise)
    (resolved : resolve catalog revise configuration = .ok result) :
    ∃ stages : Stages, stages.Of catalog revise configuration ∧ stages.result = result ∧
      (∃ counts, Consumers.ofItems stages.revised = .ok counts ∧
        Consumers.ofItems result.items = .ok counts) ∧
      Protection.derive catalog configuration.preference result.items = .ok stages.derived ∧
      revise stages.derived.rows.values = .ok result.protection ∧
      Enclosure.resize catalog configuration.preference result.items result.protection =
        .ok (result.items, stages.enclosure) := by
  obtain ⟨stages, of, rfl⟩ := resolve_ok_iff.1 resolved
  obtain ⟨counts, sized⟩ := of.settled (hook.ids_nodup (build_ids_nodup of.built) of.revised)
  have derived := of.derived
  unfold Protection.derive at derived
  obtain ⟨consumers, counted, required⟩ := bind_ok_iff.1 derived
  refine ⟨stages, of, rfl, ⟨consumers, counted, counts.trans counted⟩, ?_, of.protection, ?_⟩
  · show Protection.derive catalog configuration.preference stages.items = _
    unfold Protection.derive
    rw [counts]
    exact derived
  · unfold Enclosure.resize
    show Enclosure.resized catalog configuration.preference stages.items stages.protection >>= _ = _
    rw [sized]
    rfl

/-- Sockets, and an enclosure that is larger than they need; the smaller one is of another quality. -/
def switchboard : Catalog where
  packages := .ofList [(1, ⟨1, "Board", none, none, none, false⟩)]
  rules := [
    ⟨1, 1, ProductGroups.socketSingle, 9.0, [], [], .empty⟩,
    ⟨2, 1, ProductGroups.enclosure, 1.0, [], [], ⟨[], some "UV-24"⟩⟩]
  products := [
    ⟨"SKT", "SKT", "pc", 5.0, some ProductGroups.socketSingle, some "Standard", .const 0.2, none, [],
      none⟩,
    ⟨"MCB", "MCB", "pc", 8.0, some ProductGroups.breakerB16, some "Standard", .const 0.1, none, [],
      none⟩,
    ⟨"UV-24", "UV-24", "pc", 50.0, some ProductGroups.enclosure, some "Standard", .const 1.0, none, [],
      some 24⟩,
    ⟨"UV-12", "UV-12", "pc", 30.0, some ProductGroups.enclosure, some "Premium", .const 0.5, none, [],
      some 12⟩]
  groups := .empty
  parameters := .empty
  links := []

/-- More sockets than the package asks for. -/
def moreSockets : Overlay := { Overlay.empty with quantities := .ofList [("1-0-SKT", 17)] }

def oneBoard : Configuration := ⟨[⟨"1-0", .num (.int 1), .empty⟩], .empty, none⟩

theorem switchboard_switched :
    (resolve switchboard (moreSockets.revise switchboard none) oneBoard).toOption.map (fun result =>
      (result.items.map fun item => (item.productId, item.quantity),
        result.protection.map fun item => (item.productId, item.quantity))) =
      some ([("SKT", .int 17), ("UV-12", .int 1)], [("MCB", .int 3)]) := by decide +kernel

/-- The enclosure is switched to the smaller product, and stays there. -/
theorem switchboard_settled : (moreSockets.revise switchboard none).IsOverlay ∧
    ∃ result, resolve switchboard (moreSockets.revise switchboard none) oneBoard = .ok result ∧
      ∃ stages : Stages,
        stages.Of switchboard (moreSockets.revise switchboard none) oneBoard ∧
        stages.result = result ∧
        (∃ counts, Consumers.ofItems stages.revised = .ok counts ∧
          Consumers.ofItems result.items = .ok counts) ∧
        Protection.derive switchboard oneBoard.preference result.items = .ok stages.derived ∧
        moreSockets.revise switchboard none stages.derived.rows.values = .ok result.protection ∧
        Enclosure.resize switchboard oneBoard.preference result.items result.protection =
          .ok (result.items, stages.enclosure) := by
  have hook : (moreSockets.revise switchboard none).IsOverlay :=
    .inr ⟨moreSockets, switchboard, none, rfl⟩
  obtain ⟨result, resolved, _⟩ := toOption_map_eq_some_iff.1 switchboard_switched
  exact ⟨hook, result, resolved, resolve_fixedPoint hook resolved⟩

end Configuration

end WiringQuote
