import WiringQuote.Proofs.Catalog.Parameters
import WiringQuote.Proofs.Grouping
import WiringQuote.Proofs.Session.Run

/-!
# Valid stores

Whatever is stored was accepted once: locations are known, parameters have values that they
accepted, selected packages are known, and what a user has set is what the cleaning of such entries
made of something.

* `write_valid`: every write keeps the store valid, whatever its outcome.
* `run_valid`: the store of a reached session is valid.
-/

namespace WiringQuote

open Fallible Grouping

/-! ## Definition -/

/-- A known package, with values of the parameters that it asks for. -/
structure Selection.Valid (catalog : Catalog) (selection : Selection) : Prop where
  known : (catalog.package? selection.packageId).isSome = true
  params : Fitting (catalog.coerceLocal selection.packageId)
    (catalog.defaultLocals selection.packageId) selection.params

/-- Figures of roles that a user could set. -/
def FiguresAccepted (clean : Value → Except OverrideFault Float)
    (figures : PerRole (Option Float)) : Prop :=
  ∀ role x, figures.get role = some x → Accepted clean x

/-- What a user could set. -/
structure Overlay.Valid (catalog : Catalog) (overlay : Overlay) : Prop where
  prices : overlay.prices.Each fun _ x => Accepted Override.price x
  markups : overlay.markups.Each fun _ x => Accepted Override.markup x
  /-- A row without set hours has no entry. -/
  hours : overlay.hours.Each fun _ figures =>
    figures ≠ .const none ∧ FiguresAccepted Override.hours figures
  quantities : overlay.quantities.Each fun _ n => Accepted Override.quantity n
  swaps : overlay.swaps.Each fun _ id => (catalog.product? id).isSome = true
  removed : overlay.removed.Nodup

structure Store.Valid (reference : Reference) (store : Store) : Prop where
  location : ∀ id, store.location = some id → reference.locations.contains id = true
  /-- There is a location if the reference data has any. -/
  unplaced : store.location = none → reference.locations.keys = []
  /-- What was found missing for the wages is what is missing. -/
  rates : store.rateDiagnostics = reference.rateDiagnostics store.location
  globals : Fitting reference.catalog.coerceGlobal reference.catalog.defaultGlobals store.globals
  instances : store.instances.Each fun _ selection => selection.Valid reference.catalog
  overlay : store.overlay.Valid reference.catalog
  wages : FiguresAccepted Override.wage store.wages

/-! ## Figures of roles -/

theorem figuresAccepted_none (clean : Value → Except OverrideFault Float) :
    FiguresAccepted clean (.const none) := by
  intro role x found
  cases role <;> cases found

theorem FiguresAccepted.set {clean : Value → Except OverrideFault Float}
    {figures : PerRole (Option Float)} (accepted : FiguresAccepted clean figures) (role : Role)
    {figure : Option Float} (own : ∀ x, figure = some x → Accepted clean x) :
    FiguresAccepted clean (figures.set role figure) := by
  intro other x found
  rw [PerRole.get_set] at found
  split at found
  · exact own x found
  · exact accepted other x found

theorem accepted_of_cleaned {clean : Value → Except OverrideFault Float} {value : Value}
    {figure : Option Float}
    (cleaned : ((clean value).mapError SessionFault.ofOverride).map some = .ok figure) :
    ∀ x, figure = some x → Accepted clean x := by
  rintro x rfl
  obtain ⟨y, accepted, same⟩ := map_ok_iff.1 cleaned
  cases same
  exact ⟨value, mapError_ok_iff.1 accepted⟩

/-! ## New sessions -/

theorem Overlay.valid_empty (catalog : Catalog) : Overlay.empty.Valid catalog where
  prices := OrderedMap.each_empty _
  markups := OrderedMap.each_empty _
  hours := OrderedMap.each_empty _
  quantities := OrderedMap.each_empty _
  swaps := OrderedMap.each_empty _
  removed := List.nodup_nil

theorem Overlay.Valid.dropRows {overlay : Overlay} {catalog : Catalog} (valid : overlay.Valid catalog)
    (begins : String) : (overlay.dropRows begins).Valid catalog where
  prices := valid.prices.filterKeys _
  markups := valid.markups.filterKeys _
  hours := valid.hours.filterKeys _
  quantities := valid.quantities.filterKeys _
  swaps := valid.swaps.filterKeys _
  removed := valid.removed.sublist List.filter_sublist

theorem Reference.initialLocation_known {reference : Reference} {asked : Value} {id : String}
    (initial : reference.initialLocation asked = some id) :
    reference.locations.contains id = true := by
  unfold initialLocation at initial
  split at initial
  · rename_i known found
    cases initial
    have passes := Option.filter_eq_some_iff.1 found
    simp only [Bool.and_eq_true] at passes
    exact passes.2.2
  · split at initial
    · rename_i known
      cases initial
      exact known
    · exact OrderedMap.contains_iff.2 (List.mem_of_head? initial)

theorem Reference.initialLocation_none {reference : Reference} {asked : Value}
    (initial : reference.initialLocation asked = none) : reference.locations.keys = [] := by
  unfold initialLocation at initial
  split at initial
  · cases initial
  · split at initial
    · cases initial
    · exact List.head?_eq_none_iff.1 initial

theorem Store.valid_initial {reference : Reference} (keyed : reference.catalog.Keyed)
    (asked : Value) : (Store.initial reference asked).Valid reference where
  location _ := Reference.initialLocation_known
  unplaced := Reference.initialLocation_none
  rates := rfl
  globals := Catalog.fitting_defaultGlobals keyed
  instances := OrderedMap.each_empty _
  overlay := Overlay.valid_empty _
  wages := figuresAccepted_none _

/-! ## Plans -/

namespace Session

/-- Entries after one of them is set or taken back. -/
theorem setEntry_each {α : Type} {clean : Value → Except OverrideFault α}
    {entries next : OrderedMap String α} {itemId : String} {value : Value}
    (each : entries.Each fun _ a => Accepted clean a)
    (set : setEntry entries itemId clean value = .ok next) :
    next.Each fun _ a => Accepted clean a := by
  unfold setEntry at set
  split at set
  · cases set
    exact each.erase itemId
  · obtain ⟨a, cleaned, same⟩ := bind_ok_iff.1 set
    cases same
    exact each.insert ⟨value, mapError_ok_iff.1 cleaned⟩

variable {s : Session} {store : Store}

section Plans

variable (valid : s.store.Valid s.reference)

include valid

theorem planSelect_valid (keyed : s.catalog.Keyed) {packageId : Value} {tag : String}
    (planned : s.planSelect packageId tag = .ok store) : store.Valid s.reference := by
  unfold planSelect at planned
  obtain ⟨selection, made, same⟩ := bind_ok_iff.1 planned
  obtain ⟨known, rfl⟩ := newSelection_ok made
  cases same
  exact { valid with
    instances := valid.instances.insert ⟨known, Catalog.fitting_defaultLocals keyed packageId⟩ }

theorem planRemoveInstance_valid {key : Value}
    (planned : s.planRemoveInstance key = .ok store) : store.Valid s.reference := by
  unfold planRemoveInstance at planned
  obtain ⟨id, _, same⟩ := bind_ok_iff.1 planned
  cases same
  exact { valid with
    instances := valid.instances.erase id
    overlay := valid.overlay.dropRows _ }

theorem planGlobal_valid {key value : Value} (planned : s.planGlobal key value = .ok store) :
    store.Valid s.reference := by
  unfold planGlobal at planned
  obtain ⟨⟨name, coerced⟩, accepted, same⟩ := bind_ok_iff.1 planned
  cases same
  exact { valid with globals := valid.globals.insert (globalValue_ok accepted) }

theorem planLocal_valid {instanceId key value : Value}
    (planned : s.planLocal instanceId key value = .ok store) : store.Valid s.reference := by
  unfold planLocal at planned
  obtain ⟨⟨id, selection⟩, found, planned⟩ := bind_ok_iff.1 planned
  obtain ⟨⟨name, coerced⟩, accepted, same⟩ := bind_ok_iff.1 planned
  cases same
  have known := valid.instances id selection (selectionAt_ok found).2
  exact { valid with
    instances := valid.instances.insert
      ⟨known.known, known.params.insert (localValue_ok accepted)⟩ }

theorem planLocation_valid {key : Value} (planned : s.planLocation key = .ok store) :
    store.Valid s.reference := by
  unfold planLocation at planned
  obtain ⟨id, known, same⟩ := bind_ok_iff.1 planned
  cases same
  refine { valid with location := ?_, unplaced := ?_, rates := rfl }
  · intro other same
    cases same
    exact locationKey_ok known
  · intro none
    cases none

theorem planPrice_valid {itemId value : Value} (planned : s.planPrice itemId value = .ok store) :
    store.Valid s.reference := by
  unfold planPrice at planned
  obtain ⟨item, _, planned⟩ := bind_ok_iff.1 planned
  obtain ⟨prices, set, same⟩ := bind_ok_iff.1 planned
  cases same
  exact { valid with overlay := { valid.overlay with
    prices := setEntry_each valid.overlay.prices set } }

theorem planMarkup_valid {itemId value : Value} (planned : s.planMarkup itemId value = .ok store) :
    store.Valid s.reference := by
  unfold planMarkup at planned
  obtain ⟨item, _, planned⟩ := bind_ok_iff.1 planned
  obtain ⟨markups, set, same⟩ := bind_ok_iff.1 planned
  cases same
  exact { valid with overlay := { valid.overlay with
    markups := setEntry_each valid.overlay.markups set } }

theorem planHours_valid {itemId roleName value : Value}
    (planned : s.planHours itemId roleName value = .ok store) : store.Valid s.reference := by
  unfold planHours at planned
  obtain ⟨role, _, planned⟩ := bind_ok_iff.1 planned
  obtain ⟨item, _, planned⟩ := bind_ok_iff.1 planned
  have current : FiguresAccepted Override.hours
      ((s.store.overlay.hours.get? item.id).getD (.const none)) := by
    cases found : s.store.overlay.hours.get? item.id with
    | none => exact figuresAccepted_none _
    | some figures => exact (valid.overlay.hours item.id figures found).2
  have changed : ∀ figure, (∀ x, figure = some x → Accepted Override.hours x) →
      (setHours s.store.overlay.hours item.id
        (((s.store.overlay.hours.get? item.id).getD (.const none)).set role figure)).Each
          fun _ figures => figures ≠ .const none ∧ FiguresAccepted Override.hours figures := by
    intro figure own
    unfold setHours
    split
    · exact valid.overlay.hours.erase item.id
    · rename_i some
      exact valid.overlay.hours.insert ⟨some, current.set role own⟩
  dsimp only at planned
  split at planned
  · cases planned
    exact { valid with overlay := { valid.overlay with
      hours := changed none fun _ absent => by cases absent } }
  · obtain ⟨figure, cleaned, same⟩ := bind_ok_iff.1 planned
    cases same
    exact { valid with overlay := { valid.overlay with
      hours := changed figure (accepted_of_cleaned cleaned) } }

theorem planQuantity_valid {itemId value : Value}
    (planned : s.planQuantity itemId value = .ok store) : store.Valid s.reference := by
  unfold planQuantity at planned
  obtain ⟨quantity, cleaned, planned⟩ := bind_ok_iff.1 planned
  obtain ⟨item, _, same⟩ := bind_ok_iff.1 planned
  cases same
  exact { valid with overlay := { valid.overlay with
    quantities := valid.overlay.quantities.insert ⟨value, mapError_ok_iff.1 cleaned⟩ } }

theorem planSwap_valid {itemId productKey : Value}
    (planned : s.planSwap itemId productKey = .ok store) : store.Valid s.reference := by
  unfold planSwap at planned
  obtain ⟨item, _, planned⟩ := bind_ok_iff.1 planned
  obtain ⟨productId, standsIn, planned⟩ := bind_ok_iff.1 planned
  obtain ⟨_, _, same⟩ := bind_ok_iff.1 planned
  cases same
  obtain ⟨product, found, _⟩ := alternativeKey_ok standsIn
  have known : (s.catalog.product? productId).isSome = true := by
    rw [found]
    rfl
  exact { valid with overlay := { valid.overlay with
    swaps := valid.overlay.swaps.insert known } }

theorem planRemoveItem_valid {itemId : Value} (planned : s.planRemoveItem itemId = .ok store) :
    store.Valid s.reference := by
  unfold planRemoveItem at planned
  obtain ⟨item, _, same⟩ := bind_ok_iff.1 planned
  cases same
  exact { valid with overlay := { valid.overlay with removed := nodup_eraseDups _ } }

theorem planWage_valid {roleName value : Value} (planned : s.planWage roleName value = .ok store) :
    store.Valid s.reference := by
  unfold planWage at planned
  obtain ⟨role, _, planned⟩ := bind_ok_iff.1 planned
  dsimp only at planned
  split at planned
  · cases planned
    exact { valid with wages := valid.wages.set role fun _ absent => by cases absent }
  · obtain ⟨figure, cleaned, same⟩ := bind_ok_iff.1 planned
    cases same
    exact { valid with wages := valid.wages.set role (accepted_of_cleaned cleaned) }

end Plans

end Session

/-! ## Restoring -/

namespace SavedState

theorem acceptValues_fitting {coerce : Coercion} {defaults values : Environment}
    {saved : OrderedMap String Value} (fitting : Fitting coerce defaults defaults)
    (accepted : acceptValues coerce defaults saved = .ok values) :
    Fitting coerce defaults values := by
  unfold acceptValues at accepted
  refine foldlM_induction accepted fitting fun entry _ values next fitting step => ?_
  split at step
  · rename_i value coerced
    cases step
    exact fitting.insert coerced
  · cases step
  · cases step
    exact fitting

theorem acceptEntries_each {α : Type} {clean : Value → Except OverrideFault α}
    {saved : List (String × Value)} {entries : OrderedMap String α}
    (accepted : acceptEntries clean saved = .ok entries) :
    entries.Each fun _ a => Accepted clean a := by
  unfold acceptEntries at accepted
  refine foldlM_induction accepted (OrderedMap.each_empty _) fun entry _ kept next each step => ?_
  split at step
  · rename_i a cleaned
    cases step
    exact each.insert ⟨entry.2, cleaned⟩
  · cases step
  · cases step
    exact each

theorem acceptRoles_accepted {clean : Value → Except OverrideFault Float}
    {saved : OrderedMap String Float} {figures : PerRole (Option Float)}
    (accepted : acceptRoles clean saved = .ok figures) : FiguresAccepted clean figures := by
  unfold acceptRoles at accepted
  refine foldlM_induction accepted (figuresAccepted_none clean) fun entry _ kept next each step => ?_
  split at step
  · cases step
    exact each
  · split at step
    · rename_i x cleaned
      cases step
      refine each.set _ fun y same => ?_
      cases same
      exact ⟨_, cleaned⟩
    · cases step
    · cases step
      exact each

theorem acceptHours_each {saved : OrderedMap String (OrderedMap String Float)}
    {hours : OrderedMap String (PerRole (Option Float))}
    (accepted : acceptHours saved = .ok hours) :
    hours.Each fun _ figures => figures ≠ .const none ∧
      FiguresAccepted Override.hours figures := by
  unfold acceptHours at accepted
  refine foldlM_induction accepted (OrderedMap.each_empty _) fun entry _ kept next each step => ?_
  obtain ⟨figures, ofRoles, same⟩ := bind_ok_iff.1 step
  cases same
  split
  · exact each
  · rename_i some
    exact each.insert ⟨some, acceptRoles_accepted ofRoles⟩

variable {reference : Reference} {store next : Store}

theorem restoreLocation_valid {saved : SavedState} (valid : store.Valid reference)
    (step : restoreLocation reference saved store = .ok next) : next.Valid reference := by
  unfold restoreLocation at step
  split at step
  · rename_i id found
    cases step
    have passes := (Option.filter_eq_some_iff.1 found).2
    rw [Bool.and_eq_true] at passes
    refine { valid with
      location := fun other same => ?_
      unplaced := fun absent => by cases absent
      rates := rfl }
    cases same
    exact passes.2
  · cases step
    exact valid

theorem restoreInstance_valid (keyed : reference.catalog.Keyed) {saved : SavedInstance}
    (valid : store.Valid reference) (step : restoreInstance reference saved store = .ok next) :
    next.Valid reference := by
  unfold restoreInstance at step
  dsimp only at step
  split at step
  · rename_i known
    obtain ⟨params, accepted, same⟩ := bind_ok_iff.1 step
    cases same
    exact { valid with
      instances := valid.instances.insert
        ⟨known, acceptValues_fitting (Catalog.fitting_defaultLocals keyed _) accepted⟩ }
  · cases step
    exact valid

/-- Every step of restoring a state keeps the store valid. -/
theorem steps_valid (keyed : reference.catalog.Keyed) (saved : SavedState) :
    ∀ step ∈ saved.steps reference, ∀ store next, Store.Valid reference store →
      step store = .ok next → next.Valid reference := by
  intro step listed store next valid done
  unfold steps at listed
  simp only [List.mem_append, List.mem_cons, List.mem_map, List.not_mem_nil, or_false] at listed
  -- The cases are the steps in their order.
  rcases listed with ((rfl | rfl | rfl) | ⟨inst, _, rfl⟩) | rfl | rfl | rfl | rfl | rfl | rfl | rfl
  · exact restoreLocation_valid valid done
  · obtain ⟨globals, accepted, same⟩ := bind_ok_iff.1 done
    cases same
    exact { valid with
      globals := acceptValues_fitting (Catalog.fitting_defaultGlobals keyed) accepted }
  · cases done
    exact { valid with instances := OrderedMap.each_empty _ }
  · exact restoreInstance_valid keyed valid done
  · obtain ⟨prices, accepted, same⟩ := bind_ok_iff.1 done
    cases same
    exact { valid with overlay := { valid.overlay with prices := acceptEntries_each accepted } }
  · obtain ⟨markups, accepted, same⟩ := bind_ok_iff.1 done
    cases same
    exact { valid with overlay := { valid.overlay with markups := acceptEntries_each accepted } }
  · obtain ⟨quantities, accepted, same⟩ := bind_ok_iff.1 done
    cases same
    exact { valid with
      overlay := { valid.overlay with quantities := acceptEntries_each accepted } }
  · obtain ⟨hours, accepted, same⟩ := bind_ok_iff.1 done
    cases same
    exact { valid with overlay := { valid.overlay with hours := acceptHours_each accepted } }
  · obtain ⟨wages, accepted, same⟩ := bind_ok_iff.1 done
    cases same
    exact { valid with wages := acceptRoles_accepted accepted }
  · cases done
    exact { valid with overlay := { valid.overlay with
      swaps := OrderedMap.each_ofList fun entry known => (List.mem_filter.1 known).2 } }
  · cases done
    exact { valid with overlay := { valid.overlay with removed := nodup_eraseDups _ } }

end SavedState

/-! ## Writes and runs -/

namespace Session

variable {s : Session}

/-- Every write keeps the store valid, whatever its outcome. -/
theorem write_valid (keyed : s.catalog.Keyed) (valid : s.store.Valid s.reference) (tag : String)
    (w : Write) : (s.write tag w).2.store.Valid s.reference := by
  rw [write_eq]
  cases w with
  | selectPackage id => exact carryOut_keeps valid fun _ => planSelect_valid valid keyed
  | removeInstance id => exact carryOut_keeps valid fun _ => planRemoveInstance_valid valid
  | setGlobal key value => exact carryOut_keeps valid fun _ => planGlobal_valid valid
  | setLocal id key value => exact carryOut_keeps valid fun _ => planLocal_valid valid
  | setLocation id => exact carryOut_keeps valid fun _ => planLocation_valid valid
  | setPrice id value => exact carryOut_keeps valid fun _ => planPrice_valid valid
  | setMarkup id value => exact carryOut_keeps valid fun _ => planMarkup_valid valid
  | setHours id role value => exact carryOut_keeps valid fun _ => planHours_valid valid
  | setQuantity id value => exact carryOut_keeps valid fun _ => planQuantity_valid valid
  | swap id product => exact carryOut_keeps valid fun _ => planSwap_valid valid
  | removeItem id => exact carryOut_keeps valid fun _ => planRemoveItem_valid valid
  | setWage role value => exact keep_keeps valid fun _ => planWage_valid valid
  | restore saved => exact restore_keeps valid (SavedState.steps_valid keyed saved)

theorem load_keyed {source : Source} {asked : Value} (loaded : Session.load source asked = .ok s) :
    s.catalog.Keyed := by
  obtain ⟨catalog, _, read, reference, _, _⟩ := load_ok loaded
  unfold Source.catalog at read
  split at read
  · cases read
  · unfold Session.catalog
    rw [reference]
    exact Catalog.ofRows_keyed (mapError_ok_iff.1 read)

/-- The store of a reached session is valid. -/
theorem run_valid {allows : Write → Except SessionFault Unit → Prop} {source : Source}
    {asked : Value} {start : Session} (loaded : Session.load source asked = .ok start)
    (run : Run allows start s) : s.catalog.Keyed ∧ s.store.Valid s.reference := by
  refine run.keeps (fun s => s.catalog.Keyed ∧ s.store.Valid s.reference) ?_ ?_
  · have keyed := load_keyed loaded
    obtain ⟨_, location, _, _, store, _⟩ := load_ok loaded
    refine ⟨keyed, ?_⟩
    rw [store]
    exact Store.valid_initial keyed location
  · rintro s tag w ⟨keyed, valid⟩ _
    unfold Session.catalog
    rw [write_reference s tag w]
    exact ⟨keyed, write_valid keyed valid tag w⟩

/-- The display of a reached session is that of a valid store. -/
theorem run_displaysValid {allows : Write → Except SessionFault Unit → Prop} {source : Source}
    {asked : Value} {start : Session} (loaded : Session.load source asked = .ok start)
    (run : Run allows start s) : s.DisplaysOf (Store.Valid s.reference) := by
  induction run with
  | refl => exact ⟨start.store, (run_valid loaded (.refl : Run allows start start)).2, load_displays loaded⟩
  | @write s tag w run allowed ih =>
    rw [write_reference s tag w]
    refine write_displaysOf ih ?_
    have next := (run_valid loaded (.write run allowed)).2
    rwa [write_reference s tag w] at next

end Session

end WiringQuote
