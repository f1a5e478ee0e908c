import WiringQuote.Configuration
import WiringQuote.Proofs.Quantity.Agreement
import WiringQuote.Session.Figures

/-!
# Stores that agree

Two stores agree if they hold the same entries, whatever the order of keys. Only the order of the
selected packages counts.

* `display_congr`: stores that agree are shown alike.
* `totals_congr`: sessions over one reference whose stores agree and that are shown alike have the
  same totals.
-/

namespace WiringQuote

open Fallible

/-! ## Definition -/

/-- The same entries, whatever the order of keys. -/
structure Overlay.Agrees (a b : Overlay) : Prop where
  prices : a.prices.Same b.prices
  markups : a.markups.Same b.markups
  hours : a.hours.Same b.hours
  quantities : a.quantities.Same b.quantities
  swaps : a.swaps.Same b.swaps
  removed : ∀ id, id ∈ a.removed ↔ id ∈ b.removed

/-- The same selected package under the same id, with the same values of its parameters. -/
structure Selection.Agrees (a b : String × Selection) : Prop where
  id : a.1 = b.1
  packageId : a.2.packageId = b.2.packageId
  params : a.2.params.Same b.2.params

/-- The same content: the selected packages in the same order, everything else by key. -/
structure Store.Agrees (s t : Store) : Prop where
  location : s.location = t.location
  globals : s.globals.Same t.globals
  instances : List.Forall₂ Selection.Agrees s.instances.entries t.instances.entries
  overlay : s.overlay.Agrees t.overlay
  wages : s.wages = t.wages

/-! ## Overlays -/

namespace Overlay

variable {a b : Overlay}

theorem reviseRow_congr (agrees : a.Agrees b) (catalog : Catalog) (location : Option String)
    (item : LineItem) : a.reviseRow catalog location item = b.reviseRow catalog location item := by
  unfold reviseRow swapRow
  rw [agrees.swaps item.id]
  simp only [agrees.quantities _]

/-- Overlays that agree revise rows alike. -/
theorem revise_congr (agrees : a.Agrees b) (catalog : Catalog) (location : Option String) :
    a.revise catalog location = b.revise catalog location := by
  have removed : ∀ id, a.removed.contains id = b.removed.contains id := by
    intro id
    rw [Bool.eq_iff_iff, List.contains_iff_mem, List.contains_iff_mem]
    exact agrees.removed id
  funext items
  unfold revise
  simp only [removed, reviseRow_congr agrees]

theorem valueRow_congr (agrees : a.Agrees b) : a.valueRow = b.valueRow := by
  funext item
  unfold valueRow
  rw [agrees.prices item.id, agrees.markups item.id, agrees.hours item.id]

end Overlay

/-! ## Configurations -/

namespace Configuration

/-- The same rows and diagnostics. -/
structure Result.Shows (a b : Result) : Prop where
  items : a.items = b.items
  protection : a.protection = b.protection
  diagnostics : a.diagnostics = b.diagnostics

/-- Configurations with the same values have the same rows. -/
theorem resolve_alike (catalog : Catalog) (revise : Revision) {c d : Configuration}
    (instances : List.Forall₂ Instance.Agrees c.instances d.instances)
    (globals : c.globals.Same d.globals) (location : c.location = d.location) :
    Alike Result.Shows (resolve catalog revise c) (resolve catalog revise d) := by
  have preference : c.preference = d.preference := by
    unfold Configuration.preference globalQuality
    rw [globals, location]
  unfold resolve
  dsimp only
  rw [preference]
  refine (Resolution.resolve_alike catalog globals instances).bind fun q r agree => ?_
  rw [LineItem.build_congr agree, agree.diagnostics]
  refine (Alike.of_eq rfl).bind fun built _ same => ?_
  subst same
  refine (Alike.of_eq rfl).bind fun revised _ same => ?_
  subst same
  refine (Alike.of_eq rfl).bind fun derived _ same => ?_
  subst same
  refine (Alike.of_eq rfl).bind fun protection _ same => ?_
  subst same
  refine (Alike.of_eq rfl).bind fun sized _ same => ?_
  subst same
  exact .ok ⟨rfl, rfl, rfl⟩

end Configuration

/-! ## Stores -/

namespace Store

variable {s t : Store}

theorem instanceList_agree (agrees : s.Agrees t) :
    List.Forall₂ Instance.Agrees s.instanceList t.instanceList := by
  unfold instanceList
  rw [List.forall₂_map_left_iff, List.forall₂_map_right_iff]
  exact agrees.instances.imp fun _ _ pair => ⟨pair.id, pair.packageId, pair.params⟩

/-- Stores that agree are shown alike, if the wages at their location were checked. -/
theorem display_congr (agrees : s.Agrees t) (rates : s.rateDiagnostics = t.rateDiagnostics)
    (reference : Reference) : s.display reference = t.display reference := by
  have location : (s.configuration reference).location = (t.configuration reference).location := by
    unfold configuration
    rw [agrees.location]
  unfold display
  dsimp only
  rw [Overlay.revise_congr agrees.overlay, Overlay.valueRow_congr agrees.overlay, location, rates]
  refine Alike.eq ((Configuration.resolve_alike reference.catalog _
    (instanceList_agree agrees) agrees.globals location).bind fun a b shows => ?_)
  rw [shows.items, shows.protection, shows.diagnostics]
  exact Alike.of_eq rfl

theorem instance_keys_congr (agrees : s.Agrees t) : s.instances.keys = t.instances.keys :=
  map_eq_map_of_pairs (agrees.instances.imp fun _ _ pair => pair.id)

end Store

/-! ## Sessions -/

namespace Session

variable {s t : Session}

/-- Sessions over one reference whose stores agree and that are shown alike have the same totals. -/
theorem totals_congr (reference : s.reference = t.reference) (agrees : s.store.Agrees t.store)
    (display : s.display = t.display) (scope : String) (key : Value) :
    s.totals scope key = t.totals scope key := by
  have rows : s.rows = t.rows := by
    unfold Session.rows
    rw [display]
  have find : ∀ key, s.findRow key = t.findRow key := by
    intro key
    unfold findRow row?
    rw [rows]
  have pricing : s.pricing = t.pricing := by
    unfold Session.pricing Session.locationName Session.wages
    rw [reference, agrees.location, agrees.wages]
  have known : ∀ key, s.instanceKey key = t.instanceKey key := by
    have contains : ∀ id, s.store.instances.contains id = t.store.instances.contains id := by
      intro id
      rw [Bool.eq_iff_iff, OrderedMap.contains_iff, OrderedMap.contains_iff,
        Store.instance_keys_congr agrees]
    intro key
    unfold instanceKey
    simp only [contains]
  unfold totals
  split
  · rename_i scope _
    cases scope <;> simp only [scopeTotals, rows, find, pricing, known]
  · rfl

end Session

end WiringQuote
