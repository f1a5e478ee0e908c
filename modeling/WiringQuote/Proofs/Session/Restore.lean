import WiringQuote.Proofs.Catalog.Coerced
import WiringQuote.Proofs.Session.Agreement
import WiringQuote.Proofs.Session.Cleaned
import WiringQuote.Proofs.Session.Valid

/-!
# Restoring what was saved

Each part of a valid store is restored from what is saved of it: nothing is left out, because it was
accepted once, and no default is added, because the stored values have all of them already.

* `run_steps_saved`: restoring the saved state of a valid store yields that store, its removed rows in
  order.
-/

namespace WiringQuote

open Fallible

namespace SavedState

/-! ## Entries -/

theorem acceptValues_fixed {coerce : Coercion} {defaults values : Environment}
    (fitting : Fitting coerce defaults values)
    (fixed : ∀ key value, Accepted (coerce key) value → coerce key value = .ok value) :
    acceptValues coerce defaults values = .ok values := by
  unfold acceptValues
  rw [foldlM_ok (g := fun acc entry => acc.insert entry.1 entry.2)]
  · exact congrArg _ (OrderedMap.overlay_eq_right fitting.begins)
  · rintro ⟨key, value⟩ present acc
    rw [fixed key value (fitting.accepted key value (OrderedMap.mem_entries_iff.1 present))]

theorem acceptEntries_fixed {α : Type} {clean : Value → Except OverrideFault α} {asValue : α → Value}
    {entries : OrderedMap String α} (each : entries.Each fun _ a => clean (asValue a) = .ok a) :
    acceptEntries clean (entries.entries.map fun entry => (entry.1, asValue entry.2)) =
      .ok entries := by
  unfold acceptEntries
  rw [List.foldlM_map, foldlM_ok (g := fun acc entry => acc.insert entry.1 entry.2)]
  · exact congrArg _ (OrderedMap.ofList_entries entries)
  · rintro ⟨key, a⟩ present acc
    dsimp only
    rw [each key a (OrderedMap.mem_entries_iff.1 present)]

/-! ## Figures of roles -/

/-- The figures of one role after the other, each under the name of its role. -/
theorem entries_namedRoles (figures : PerRole (Option Float)) :
    (Store.namedRoles figures).entries =
      figures.toList.filterMap fun pair => pair.2.map fun x => (pair.1.name, x) := by
  obtain ⟨meister, geselle, monteur⟩ := figures
  cases meister <;> cases geselle <;> cases monteur <;> rfl

theorem ofName?_name (role : Role) : Role.ofName? role.name = some role := by
  cases role <;> rfl

theorem acceptRoles_named {clean : Value → Except OverrideFault Float}
    {figures : PerRole (Option Float)}
    (fixed : ∀ role x, figures.get role = some x → clean (.float x) = .ok x) :
    acceptRoles clean (Store.namedRoles figures) = .ok figures := by
  unfold acceptRoles
  rw [entries_namedRoles]
  rw [foldlM_ok (g := fun acc entry =>
    (Role.ofName? entry.1).elim acc fun role => acc.set role (some entry.2))]
  · obtain ⟨meister, geselle, monteur⟩ := figures
    cases meister <;> cases geselle <;> cases monteur <;> rfl
  · rintro ⟨name, x⟩ present acc
    obtain ⟨⟨role, figure⟩, listed, named⟩ := List.mem_filterMap.1 present
    obtain ⟨_, _, same⟩ := List.mem_map.1 listed
    cases same
    obtain ⟨_, found, same⟩ := Option.map_eq_some_iff.1 named
    cases same
    dsimp only
    rw [ofName?_name]
    dsimp only
    rw [fixed _ _ found]
    rfl

theorem acceptHours_named {hours : OrderedMap String (PerRole (Option Float))}
    (each : hours.Each fun _ figures => figures ≠ .const none ∧
      FiguresAccepted Override.hours figures) :
    acceptHours (hours.mapValues Store.namedRoles) = .ok hours := by
  unfold acceptHours OrderedMap.mapValues
  rw [List.foldlM_map, foldlM_ok (g := fun acc entry => acc.insert entry.1 entry.2)]
  · exact congrArg _ (OrderedMap.ofList_entries hours)
  · rintro ⟨id, figures⟩ present acc
    obtain ⟨some, accepted⟩ := each id figures (OrderedMap.mem_entries_iff.1 present)
    have restored : acceptRoles Override.hours (Store.namedRoles figures) = .ok figures :=
      acceptRoles_named fun role x found => Override.amount_fixed (accepted role x found)
    dsimp only
    rw [restored]
    exact congrArg Except.ok (if_neg some)

/-! ## Removed rows -/

theorem eraseDups_of_nodup {l : List String} (distinct : l.Nodup) : l.eraseDups = l := by
  induction l with
  | nil => rfl
  | cons a rest ih =>
    rw [List.nodup_cons] at distinct
    -- Nothing equals the first element, so that nothing is taken out.
    have others : rest.filter (fun b => !b == a) = rest := by
      rw [List.filter_eq_self]
      intro b present
      have other : b ≠ a := fun same => distinct.1 (same ▸ present)
      simp [other]
    rw [List.eraseDups_cons, others, ih distinct.2]

theorem sortedTexts_perm (texts : List String) : (sortedTexts texts).Perm texts :=
  List.mergeSort_perm texts _

theorem sortedTexts_sortedTexts (texts : List String) :
    sortedTexts (sortedTexts texts) = sortedTexts texts := by
  refine List.mergeSort_of_pairwise (List.pairwise_mergeSort ?_ ?_ texts)
  · intro a b c first second
    simp only [decide_eq_true_eq] at *
    exact String.le_trans first second
  · intro a b
    simp only [Bool.or_eq_true, decide_eq_true_eq]
    exact String.le_total a b

end SavedState

/-! ## Steps -/

namespace Store

/-- The store with its removed rows in order. -/
def sorted (store : Store) : Store :=
  { store with overlay := { store.overlay with removed := sortedTexts store.overlay.removed } }

/-- The ids of the selected packages are whole numbers. -/
def WholeIds (store : Store) : Prop :=
  store.instances.Each fun _ selection => ∃ n, selection.packageId = .int n

theorem sorted_agrees (store : Store) : store.sorted.Agrees store where
  location := rfl
  globals := .refl _
  instances := List.forall₂_same.2 fun _ _ => ⟨rfl, rfl, .refl _⟩
  overlay := ⟨.refl _, .refl _, .refl _, .refl _, .refl _,
    fun _ => (SavedState.sortedTexts_perm store.overlay.removed).mem_iff⟩
  wages := rfl

/-- The order of the removed rows is not saved. -/
theorem saved_sorted (store : Store) : store.sorted.saved = store.saved := by
  unfold saved sorted
  dsimp only
  rw [SavedState.sortedTexts_sortedTexts]

end Store

namespace SavedState

variable {reference : Reference} {store begun next : Store}

theorem run_cons {step : StoreStep} {rest : List StoreStep} (done : step begun = .ok next) :
    StoreStep.run (step :: rest) begun = StoreStep.run rest next := by
  rw [StoreStep.run, done]

theorem restoreInstance_saved {id : String} {selection : Selection}
    (valid : selection.Valid reference.catalog) (whole : ∃ n, selection.packageId = .int n) :
    restoreInstance reference ⟨id, selection.packageId.whole?.getD 0, selection.params⟩ begun =
      .ok { begun with instances := begun.instances.insert id selection } := by
  have stored : Value.int (selection.packageId.whole?.getD 0) = selection.packageId := by
    obtain ⟨n, same⟩ := whole
    rw [same]
    rfl
  have restored := acceptValues_fixed valid.params fun _ _ => Catalog.coerceLocal_fixed
  unfold restoreInstance
  dsimp only
  rw [stored, if_pos valid.known, restored]
  rfl

/-- Saved packages are added one after the other. -/
theorem run_restoreInstances {entries : List (String × Selection)} (rest : List StoreStep)
    (valid : ∀ entry ∈ entries, entry.2.Valid reference.catalog ∧
      ∃ n, entry.2.packageId = .int n) :
    StoreStep.run (entries.map (fun entry => restoreInstance reference
        ⟨entry.1, entry.2.packageId.whole?.getD 0, entry.2.params⟩) ++ rest) begun =
      StoreStep.run rest { begun with instances := begun.instances.writeAll entries } := by
  induction entries generalizing begun with
  | nil => rfl
  | cons entry others ih =>
    obtain ⟨fits, whole⟩ := valid entry List.mem_cons_self
    rw [List.map_cons, List.cons_append, run_cons (restoreInstance_saved fits whole),
      ih fun other listed => valid other (List.mem_cons_of_mem _ listed)]
    rfl

theorem restoreLocation_saved (known : ∀ id, store.location = some id →
      reference.locations.contains id = true)
    (named : reference.locations.contains "" = false)
    (unplaced : store.location = none → begun.location = none)
    (checked : begun.rateDiagnostics = reference.rateDiagnostics begun.location) :
    restoreLocation reference store.saved begun =
      .ok (Store.checkRates reference { begun with location := store.location }) := by
  unfold restoreLocation Store.saved Store.checkRates
  dsimp only
  cases placed : store.location with
  | none =>
    rw [Option.filter_none]
    dsimp only
    rw [← unplaced placed, ← checked]
  | some id =>
    have nonempty : id.isEmpty = false := by
      rw [Bool.eq_false_iff]
      intro blank
      have other := known id placed
      rw [String.isEmpty_iff.1 blank, named] at other
      cases other
    have passes : (!id.isEmpty && reference.locations.contains id) = true := by
      rw [nonempty, known id placed]
      rfl
    rw [Option.filter_some, if_pos passes]

theorem restoreGlobals_saved (fitting : Fitting reference.catalog.coerceGlobal
      reference.catalog.defaultGlobals store.globals) :
    restoreGlobals reference store.saved begun = .ok { begun with globals := store.globals } := by
  have restored := acceptValues_fixed fitting fun _ _ => Catalog.coerceGlobal_fixed
  show acceptValues reference.catalog.coerceGlobal _ store.globals >>= _ = _
  rw [restored]
  rfl

section Overlay

variable {catalog : Catalog} (valid : store.overlay.Valid catalog)

include valid

theorem restorePrices_saved : restorePrices store.saved begun =
    .ok { begun with overlay := { begun.overlay with prices := store.overlay.prices } } := by
  have restored : acceptEntries Override.price (asValues store.overlay.prices) =
      .ok store.overlay.prices :=
    acceptEntries_fixed fun id x found => Override.amount_fixed (valid.prices id x found)
  show acceptEntries Override.price (asValues store.overlay.prices) >>= _ = _
  rw [restored]
  rfl

theorem restoreMarkups_saved : restoreMarkups store.saved begun =
    .ok { begun with overlay := { begun.overlay with markups := store.overlay.markups } } := by
  have restored : acceptEntries Override.markup (asValues store.overlay.markups) =
      .ok store.overlay.markups :=
    acceptEntries_fixed fun id x found => Override.markup_fixed (valid.markups id x found)
  show acceptEntries Override.markup (asValues store.overlay.markups) >>= _ = _
  rw [restored]
  rfl

theorem restoreQuantities_saved : restoreQuantities store.saved begun =
    .ok { begun with overlay := { begun.overlay with quantities := store.overlay.quantities } } := by
  have restored : acceptEntries Override.quantity
      (store.overlay.quantities.entries.map fun entry => (entry.1, .int entry.2)) =
        .ok store.overlay.quantities :=
    acceptEntries_fixed fun id n found => Override.quantity_fixed (valid.quantities id n found)
  show acceptEntries Override.quantity
    (store.overlay.quantities.entries.map fun entry => (entry.1, .int entry.2)) >>= _ = _
  rw [restored]
  rfl

theorem restoreHours_saved : restoreHours store.saved begun =
    .ok { begun with overlay := { begun.overlay with hours := store.overlay.hours } } := by
  have restored := acceptHours_named valid.hours
  show acceptHours (store.overlay.hours.mapValues Store.namedRoles) >>= _ = _
  rw [restored]
  rfl

theorem restoreRemoved_saved : restoreRemoved store.saved begun =
    .ok { begun with overlay := { begun.overlay with
      removed := sortedTexts store.overlay.removed } } := by
  have distinct := (sortedTexts_perm store.overlay.removed).nodup_iff.2 valid.removed
  show Except.ok { begun with overlay := { begun.overlay with
    removed := (sortedTexts store.overlay.removed).eraseDups } } = _
  rw [eraseDups_of_nodup distinct]

end Overlay

theorem restoreSwaps_saved (valid : store.overlay.Valid reference.catalog) :
    restoreSwaps reference store.saved begun =
      .ok { begun with overlay := { begun.overlay with swaps := store.overlay.swaps } } := by
  have known : store.overlay.swaps.entries.filter (fun entry =>
      (reference.catalog.product? entry.2).isSome) = store.overlay.swaps.entries := by
    rw [List.filter_eq_self]
    exact fun entry present => valid.swaps _ _ (OrderedMap.mem_entries_iff.1 present)
  show Except.ok { begun with overlay := { begun.overlay with
    swaps := OrderedMap.ofList (store.overlay.swaps.entries.filter _) } } = _
  rw [known, OrderedMap.ofList_entries]

theorem restoreWages_saved (accepted : FiguresAccepted Override.wage store.wages) :
    restoreWages store.saved begun = .ok { begun with wages := store.wages } := by
  have restored : acceptRoles Override.wage (Store.namedRoles store.wages) = .ok store.wages :=
    acceptRoles_named fun role x found => Override.amount_fixed (accepted role x found)
  show acceptRoles Override.wage (Store.namedRoles store.wages) >>= _ = _
  rw [restored]
  rfl

/-- Restoring the saved state of a valid store yields that store, whatever checked store it is restored
over. -/
theorem run_steps_saved (valid : store.Valid reference) (whole : store.WholeIds)
    (named : reference.locations.contains "" = false)
    (unplaced : store.location = none → begun.location = none)
    (checked : begun.rateDiagnostics = reference.rateDiagnostics begun.location) :
    StoreStep.run (store.saved.steps reference) begun = (.ok (), store.sorted) := by
  have instances : ∀ entry ∈ store.instances.entries, entry.2.Valid reference.catalog ∧
      ∃ n, entry.2.packageId = .int n := fun entry present =>
    have found := OrderedMap.mem_entries_iff.1 present
    ⟨valid.instances _ _ found, whole _ _ found⟩
  have added : store.saved.instances.map (restoreInstance reference) =
      store.instances.entries.map fun entry => restoreInstance reference
        ⟨entry.1, entry.2.packageId.whole?.getD 0, entry.2.params⟩ := List.map_map
  have emptied : ∀ middle : Store, clearInstances middle =
      .ok { middle with instances := .empty } := fun _ => rfl
  have all : OrderedMap.empty.writeAll store.instances.entries = store.instances :=
    OrderedMap.ofList_entries store.instances
  -- Every part of the store is set by its step, so that nothing stays of what it is restored over.
  unfold steps
  rw [List.append_assoc, added, List.cons_append, List.cons_append, List.cons_append,
    List.nil_append, run_cons (restoreLocation_saved valid.location named unplaced checked),
    run_cons (restoreGlobals_saved valid.globals), run_cons (emptied _),
    run_restoreInstances _ instances, run_cons (restorePrices_saved valid.overlay),
    run_cons (restoreMarkups_saved valid.overlay), run_cons (restoreQuantities_saved valid.overlay),
    run_cons (restoreHours_saved valid.overlay), run_cons (restoreWages_saved valid.wages),
    run_cons (restoreSwaps_saved valid.overlay), run_cons (restoreRemoved_saved valid.overlay)]
  unfold Store.checkRates
  dsimp only
  rw [all, ← valid.rates]
  rfl

end SavedState

end WiringQuote
