import WiringQuote.Proofs.OrderedMap
import WiringQuote.Session.SavedState

/-!
# Written states

* `SavedState.ofValue?_toValue`: a saved state is read back from the object that it is written as.
-/

namespace WiringQuote

/-! ## Lists and maps -/

namespace Value

theorem mapM_map_self {α β : Type} {write : α → β} {read : β → Option α}
    (reads : ∀ a, read (write a) = some a) (items : List α) :
    (items.map write).mapM read = some items := by
  induction items with
  | nil => rfl
  | cons a rest ih =>
    rw [List.map_cons, List.mapM_cons, reads, ih]
    rfl

theorem texts?_list (texts : List String) : texts? (.list (texts.map .str)) = some texts :=
  @mapM_map_self String Value .str text? (fun _ => rfl) texts

theorem map?_toValue (m : OrderedMap String Value) : map? (m.toValue fun v => v) = some m := by
  show some (OrderedMap.ofList (m.entries.map fun entry => (entry.1, entry.2))) = _
  rw [List.map_id', OrderedMap.ofList_entries]

theorem mapOf?_toValue {α : Type} {kind : Value → Option α} {asValue : α → Value}
    (reads : ∀ a, kind (asValue a) = some a) (m : OrderedMap String α) :
    mapOf? kind (m.toValue asValue) = some m := by
  unfold mapOf? OrderedMap.toValue fields?
  dsimp only [bind, Option.bind]
  rw [mapM_map_self]
  · exact congrArg some (OrderedMap.ofList_entries m)
  · intro entry
    dsimp only
    rw [reads]
    rfl

end Value

/-! ## States -/

open Value

theorem SavedInstance.ofValue?_toValue (saved : SavedInstance) :
    SavedInstance.ofValue? saved.toValue = some saved := by
  have params : saved.toValue.defaulted "params" map? .empty = some saved.params :=
    map?_toValue saved.params
  unfold SavedInstance.ofValue?
  rw [params]
  rfl

/-- A saved state is read back from the object that it is written as. -/
theorem SavedState.ofValue?_toValue (saved : SavedState) :
    SavedState.ofValue? saved.toValue = some saved := by
  have floats : ∀ m : OrderedMap String Float, mapOf? float? (m.toValue .float) = some m :=
    mapOf?_toValue fun _ => rfl
  have location : saved.toValue.optional "location_id" text? = some saved.location := by
    show nullable text? (ofOption .str saved.location) = _
    cases saved.location <;> rfl
  have globals : saved.toValue.defaulted "global_params" map? .empty = some saved.globals :=
    map?_toValue saved.globals
  have instances : saved.toValue.defaulted "instances"
      (fun v => v.list?.bind fun items => items.mapM SavedInstance.ofValue?) [] =
        some saved.instances :=
    mapM_map_self SavedInstance.ofValue?_toValue saved.instances
  have prices : saved.toValue.defaulted "local_prices" (mapOf? float?) .empty =
      some saved.prices := floats saved.prices
  have markups : saved.toValue.defaulted "local_markups" (mapOf? float?) .empty =
      some saved.markups := floats saved.markups
  have hours : saved.toValue.defaulted "manual_hours" (mapOf? (mapOf? float?)) .empty =
      some saved.hours := mapOf?_toValue floats saved.hours
  have quantities : saved.toValue.defaulted "quantities" (mapOf? int?) .empty =
      some saved.quantities := @mapOf?_toValue Int int? .int (fun _ => rfl) saved.quantities
  have swaps : saved.toValue.defaulted "swaps" (mapOf? text?) .empty = some saved.swaps :=
    @mapOf?_toValue String text? .str (fun _ => rfl) saved.swaps
  have removed : saved.toValue.defaulted "removed" texts? [] = some saved.removed :=
    texts?_list saved.removed
  have wages : saved.toValue.defaulted "wage_overrides" (mapOf? float?) .empty =
      some saved.wages := floats saved.wages
  unfold SavedState.ofValue?
  rw [location, globals, instances, prices, markups, hours, quantities, swaps, removed, wages]
  rfl

end WiringQuote
