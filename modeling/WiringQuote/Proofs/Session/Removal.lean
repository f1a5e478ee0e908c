import WiringQuote.Proofs.LineItem.Ids
import WiringQuote.Proofs.Session.LastWrite
import WiringQuote.Proofs.Session.Shown

/-!
# Removing a selected package

What was set for the rows of a removed package is found by the ids of the rows: those that start with
the id of the package and a dash. Restored ids may be any texts, so that the rows of another package can
start in the same way.

* `rows_named`: a displayed row has the id of its selected package and a product.
* `dropRows_sameFor_iff`: what is set for a row stays exactly if there is nothing or the id of the row
  starts differently.
* `removeInstance_spares_iff`: when removing one package spares what is set for the rows of another.
* `nestedIds_unset`: a row loses its price and comes back though its package stays.
-/

namespace WiringQuote

open Fallible LineItem

/-! ## Displayed rows -/

namespace Store

variable {reference : Reference} {store : Store} {stages : Configuration.Stages}
  (of : stages.Of reference.catalog
    (store.overlay.revise reference.catalog (store.configuration reference).location)
    (store.configuration reference))

theorem preserves_named (reference : Reference) (store : Store) : store.Preserves reference Named :=
  preserves_of_keeps fun _ _ kept named => kept.named named

include of

theorem items_named : ∀ row ∈ stages.items, row.Named :=
  (store.preserves_named reference).items of (build_named of.built)

theorem protection_named : ∀ row ∈ stages.protection, row.Named :=
  (store.preserves_named reference).protection of (Protection.derive_named of.derived)

end Store

/-- A displayed row has the id of its selected package and a product. -/
theorem Session.rows_named {s : Session} (displays : s.Displays) {row : LineItem}
    (shown : row ∈ s.rows) : row.Named := by
  obtain ⟨store, shows⟩ := displays
  have preserves := store.preserves_named s.reference
  obtain ⟨stages, of, display⟩ := Store.display_ok_iff.1 shows
  unfold rows at shown
  rw [display] at shown
  rcases List.mem_append.1 shown with product | device
  · obtain ⟨item, listed, rfl⟩ := List.mem_map.1 product
    exact preserves.value item (Store.items_named of item listed)
  · obtain ⟨item, listed, rfl⟩ := List.mem_map.1 device
    exact preserves.value item (Store.protection_named of item listed)

/-! ## What is set for a row -/

namespace Overlay

/-- The ids of the rows for which anything is set. -/
def ids (overlay : Overlay) : List String :=
  overlay.prices.keys ++ overlay.markups.keys ++ overlay.hours.keys ++ overlay.quantities.keys ++
    overlay.swaps.keys ++ overlay.removed

/-- The same is set for a row. -/
structure SameFor (id : String) (a b : Overlay) : Prop where
  prices : a.prices.get? id = b.prices.get? id
  markups : a.markups.get? id = b.markups.get? id
  hours : a.hours.get? id = b.hours.get? id
  quantities : a.quantities.get? id = b.quantities.get? id
  swaps : a.swaps.get? id = b.swaps.get? id
  removed : id ∈ a.removed ↔ id ∈ b.removed

variable {overlay a b c : Overlay} {id start : String}

theorem SameFor.symm (same : SameFor id a b) : SameFor id b a :=
  ⟨same.prices.symm, same.markups.symm, same.hours.symm, same.quantities.symm, same.swaps.symm,
    same.removed.symm⟩

theorem SameFor.trans (first : SameFor id a b) (second : SameFor id b c) : SameFor id a c :=
  ⟨first.prices.trans second.prices, first.markups.trans second.markups,
    first.hours.trans second.hours, first.quantities.trans second.quantities,
    first.swaps.trans second.swaps, first.removed.trans second.removed⟩

theorem not_mem_ids_iff : id ∉ overlay.ids ↔ SameFor id overlay .empty := by
  unfold ids
  simp only [List.mem_append, not_or, ← OrderedMap.get?_eq_none_iff]
  constructor
  · rintro ⟨⟨⟨⟨⟨prices, markups⟩, hours⟩, quantities⟩, swaps⟩, removed⟩
    exact ⟨prices, markups, hours, quantities, swaps, by simp [removed, empty]⟩
  · intro same
    exact ⟨⟨⟨⟨⟨same.prices, same.markups⟩, same.hours⟩, same.quantities⟩, same.swaps⟩,
      fun listed => by cases same.removed.1 listed⟩

theorem dropRows_sameFor_empty (starts : id.startsWith start = true) :
    SameFor id (overlay.dropRows start) .empty := by
  unfold dropRows
  constructor <;> simp [starts, empty]

theorem dropRows_sameFor (other : id.startsWith start = false) :
    SameFor id (overlay.dropRows start) overlay := by
  unfold dropRows
  constructor <;> simp [other]

/-- What is set for a row stays exactly if there is nothing or the id of the row starts differently. -/
theorem dropRows_sameFor_iff : SameFor id (overlay.dropRows start) overlay ↔
    id ∉ overlay.ids ∨ ¬ id.startsWith start = true := by
  cases starts : id.startsWith start with
  | false => exact ⟨fun _ => .inr (by simp), fun _ => dropRows_sameFor starts⟩
  | true =>
    rw [not_mem_ids_iff]
    constructor
    · intro same
      exact .inl (same.symm.trans (dropRows_sameFor_empty starts))
    · rintro (nothing | other)
      · exact (dropRows_sameFor_empty starts).trans nothing.symm
      · exact absurd rfl other

/-- Overlays without anything for such rows stay as they are. -/
theorem dropRows_eq_self (unset : ∀ id ∈ overlay.ids, id.startsWith start = false) :
    overlay.dropRows start = overlay := by
  have kept : ∀ id ∈ overlay.ids, (!id.startsWith start) = true := by
    intro id listed
    rw [unset id listed]
    rfl
  unfold ids at kept
  simp only [List.mem_append, or_imp, forall_and] at kept
  obtain ⟨⟨⟨⟨⟨prices, markups⟩, hours⟩, quantities⟩, swaps⟩, removed⟩ := kept
  unfold dropRows
  dsimp only
  rw [OrderedMap.filterKeys_eq_self prices, OrderedMap.filterKeys_eq_self markups,
    OrderedMap.filterKeys_eq_self hours, OrderedMap.filterKeys_eq_self quantities,
    OrderedMap.filterKeys_eq_self swaps, List.filter_eq_self.2 removed]

end Overlay

/-! ## Other packages -/

namespace Session

variable {start s t : Session}

/-- The store without a removed package. -/
theorem removeInstance_store {tag i : String}
    (removed : s.write tag (.removeInstance (.str i)) = (.ok (), t)) :
    t.store = { s.store with
      instances := s.store.instances.erase i
      overlay := s.store.overlay.dropRows (i ++ "-") } := by
  rw [write_eq] at removed
  obtain ⟨store, planned, _, same⟩ := carryOut_ok removed
  unfold planRemoveInstance at planned
  obtain ⟨id, found, made⟩ := bind_ok_iff.1 planned
  cases made
  cases instanceKey_ok found
  rw [same]

/-- Removing one package leaves another with its parameters. What is set for a row of that other one,
displayed or not, stays exactly if there is nothing or the two ids are not nested in the id of the row;
ids that are given out never are. -/
theorem removeInstance_spares_iff {source : Source} {asked : Value} {tag i j : String}
    (loaded : Session.load source asked = .ok start) (run : Run anyOutcome start s)
    (different : i ≠ j) (removed : s.write tag (.removeInstance (.str i)) = (.ok (), t)) :
    t.store.instances.get? j = s.store.instances.get? j ∧
    (∀ row ∈ s.rows, row.instanceId = j → ∃ productId, row.id = lineItemId j productId) ∧
    (∀ productId, t.store.overlay.SameFor (lineItemId j productId) s.store.overlay ↔
      lineItemId j productId ∉ s.store.overlay.ids ∨ ¬ Nested i j productId) ∧
    (Given i → Given j →
      ∀ productId, t.store.overlay.SameFor (lineItemId j productId) s.store.overlay) := by
  have spares : ∀ productId, t.store.overlay.SameFor (lineItemId j productId) s.store.overlay ↔
      lineItemId j productId ∉ s.store.overlay.ids ∨ ¬ Nested i j productId := by
    intro productId
    rw [removeInstance_store removed, ← lineItemId_startsWith_iff different]
    exact Overlay.dropRows_sameFor_iff
  refine ⟨?_, fun row shown own => ?_, spares, fun givenI givenJ productId => ?_⟩
  · rw [removeInstance_store removed, OrderedMap.erase, OrderedMap.get?_filterKeys]
    exact if_pos (by simp [different.symm])
  · exact own ▸ rows_named (run_displays loaded run) shown
  · exact (spares productId).2 (.inr (givenI.not_nested givenJ productId))

/-! ## Two packages with nested ids -/

/-- Two packages with ids of a user's own, one of which starts with the other and a dash. -/
def nestedPackages : SavedState where
  location := none
  globals := .empty
  instances := [⟨"a", 1, .empty⟩, ⟨"a-b", 1, .empty⟩]
  prices := .empty
  markups := .empty
  hours := .empty
  quantities := .empty
  swaps := .empty
  removed := []
  wages := .empty

/-- A row of the second package gets a price and is removed, then the first package is removed. -/
def nestedWrites : List (String × Write) := [
  ("", .restore nestedPackages),
  ("", .setPrice (.str "a-b-PRE") (.float 9.5)),
  ("", .removeItem (.str "a-b-PRE"))]

/-- The session after these writes. -/
def nested (start : Session) : Session := start.after nestedWrites

/-- The outcome of removing the first package, and the session after it. -/
def unnested (start : Session) : Written := start.nested.write "" (.removeInstance (.str "a"))

theorem nested_overlay : (Session.load twoLocations .null).toOption.map (fun start =>
    (start.unnested.1.isOk && start.nested.store.overlay.removed.contains "a-b-PRE",
      start.nested.store.overlay.prices.get? "a-b-PRE", start.unnested.2.store.instances.keys,
      start.unnested.2.store.overlay.ids, start.unnested.2.rows.map (·.id))) =
    some (true, some 9.5, ["a-b"], [], ["a-b-PRE"]) := by decide +kernel

/-- Removing the first package takes the price and the removal of the row away, so that it comes back,
though the second package stays. -/
theorem nestedIds_unset : ∃ start s t, Session.load twoLocations .null = .ok start ∧
    Run anyOutcome start s ∧ s.write "" (.removeInstance (.str "a")) = (.ok (), t) ∧
    t.store.instances.keys = ["a-b"] ∧
    s.store.overlay.prices.get? (lineItemId "a-b" "PRE") = some 9.5 ∧
    lineItemId "a-b" "PRE" ∈ s.store.overlay.removed ∧
    t.store.overlay.prices.get? (lineItemId "a-b" "PRE") = none ∧
    lineItemId "a-b" "PRE" ∉ t.store.overlay.removed ∧
    t.rows.map (·.id) = [lineItemId "a-b" "PRE"] := by
  obtain ⟨start, loaded, facts⟩ := toOption_map_eq_some_iff.1 nested_overlay
  obtain ⟨done, facts⟩ := Prod.mk.inj facts
  obtain ⟨price, facts⟩ := Prod.mk.inj facts
  obtain ⟨kept, facts⟩ := Prod.mk.inj facts
  obtain ⟨unset, rows⟩ := Prod.mk.inj facts
  obtain ⟨done, gone⟩ := (Bool.and_eq_true ..).mp done
  obtain ⟨t, removed⟩ := done_of_isOk done
  have run : Run anyOutcome start start.nested := run_after .refl _
  rw [removed] at kept unset rows
  have nothing : Overlay.SameFor "a-b-PRE" t.store.overlay .empty :=
    Overlay.not_mem_ids_iff.1 (by rw [unset]; exact List.not_mem_nil)
  exact ⟨start, start.nested, t, loaded, run, removed, kept, price,
    List.contains_iff_mem.1 gone, nothing.prices,
    fun listed => List.not_mem_nil (nothing.removed.1 listed), rows⟩

theorem repeatedWrites_removed : (Session.load twoLocations .null).toOption.map (fun start =>
    (((start.after repeatedWrites).write "" (.removeInstance (.str "1-b"))).1.isOk,
      (start.after repeatedWrites).store.overlay.prices.get? "1-a-PRE")) =
    some (true, some 4.0) := by decide +kernel

/-- One of two packages is removed, and what is set for the rows of the other stays. -/
theorem repeatedWrites_spared : ∃ start s t, Session.load twoLocations .null = .ok start ∧
    Run anyOutcome start s ∧ "1-b" ≠ "1-a" ∧
    s.write "" (.removeInstance (.str "1-b")) = (.ok (), t) ∧
    s.store.overlay.prices.get? (lineItemId "1-a" "PRE") = some 4.0 ∧
    t.store.overlay.prices.get? (lineItemId "1-a" "PRE") = some 4.0 ∧
    t.store.instances.get? "1-a" = s.store.instances.get? "1-a" := by
  obtain ⟨start, loaded, facts⟩ := toOption_map_eq_some_iff.1 repeatedWrites_removed
  obtain ⟨done, price⟩ := Prod.mk.inj facts
  obtain ⟨t, removed⟩ := done_of_isOk done
  have run : Run anyOutcome start (start.after repeatedWrites) := run_after .refl _
  have different : "1-b" ≠ "1-a" := by decide
  obtain ⟨kept, _, _, spared⟩ := removeInstance_spares_iff loaded run different removed
  have givenA : Given "1-a" := ⟨1, "a", by decide +kernel, by decide⟩
  have givenB : Given "1-b" := ⟨1, "b", by decide +kernel, by decide⟩
  exact ⟨start, _, t, loaded, run, different, removed, price,
    (spared givenB givenA "PRE").prices.trans price, kept⟩

end Session

end WiringQuote
