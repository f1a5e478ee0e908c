import WiringQuote.Session.Basic
import WiringQuote.Session.Fault
import WiringQuote.Session.SavedState

/-!
# Saving and restoring

A saved state is restored in steps. Entries that no longer fit the reference data, or that a user
could not set, are left out. A step that fails for arithmetic leaves the store as the steps before it
made it.
-/

namespace WiringQuote

open Decimal

/-- A change to a store that may fail. -/
abbrev StoreStep := Store → Except Fault Store

/-- Steps one after the other, up to the first that fails. -/
def StoreStep.run : List StoreStep → Store → Except Fault Unit × Store
  | [], store => (.ok (), store)
  | step :: rest, store =>
    match step store with
    | .ok next => run rest next
    | .error fault => (.error fault, store)

namespace SavedState

/-! ## Entries that still fit -/

/-- Coerces the values that are accepted over the given ones. -/
def acceptValues (coerce : String → Value → Except ParameterFault Value) (defaults : Environment)
    (saved : OrderedMap String Value) : Except Fault Environment :=
  saved.entries.foldlM (fun values entry =>
    match coerce entry.1 entry.2 with
    | .ok value => .ok (values.insert entry.1 value)
    | .error (.arithmetic fault) => .error fault
    | .error _ => .ok values) defaults

/-- The entries that a user could set, cleaned. -/
def acceptEntries {α : Type} (clean : Value → Except OverrideFault α)
    (saved : List (String × Value)) : Except Fault (OrderedMap String α) :=
  saved.foldlM (fun accepted entry =>
    match clean entry.2 with
    | .ok a => .ok (accepted.insert entry.1 a)
    | .error (.arithmetic fault) => .error fault
    | .error _ => .ok accepted) .empty

/-- Numbers as the values that they were saved as. -/
def asValues (saved : OrderedMap String Float) : List (String × Value) :=
  saved.entries.map fun (key, x) => (key, .float x)

/-- The cleaned numbers of known roles. -/
def acceptRoles (clean : Value → Except OverrideFault Float) (saved : OrderedMap String Float) :
    Except Fault (PerRole (Option Float)) :=
  saved.entries.foldlM (fun accepted entry =>
    match Role.ofName? entry.1 with
    | none => .ok accepted
    | some role =>
      match clean (.float entry.2) with
      | .ok x => .ok (accepted.set role (some x))
      | .error (.arithmetic fault) => .error fault
      | .error _ => .ok accepted) (.const none)

/-- The set hours of each row that has any. -/
def acceptHours (saved : OrderedMap String (OrderedMap String Float)) :
    Except Fault (OrderedMap String (PerRole (Option Float))) :=
  saved.entries.foldlM (fun accepted entry => do
    let hours ← acceptRoles Override.hours entry.2
    return if hours = .const none then accepted else accepted.insert entry.1 hours) .empty

/-! ## Steps -/

def restoreLocation (reference : Reference) (saved : SavedState) : StoreStep := fun store =>
  match saved.location.filter fun id => !id.isEmpty && reference.locations.contains id with
  | some id => .ok (Store.checkRates reference { store with location := some id })
  | none => .ok store

def restoreGlobals (reference : Reference) (saved : SavedState) : StoreStep := fun store => do
  let globals ← acceptValues reference.catalog.coerceGlobal reference.catalog.defaultGlobals
    saved.globals
  return { store with globals }

def clearInstances : StoreStep := fun store => .ok { store with instances := .empty }

/-- Adds a saved package; one that the catalog does not know is left out. -/
def restoreInstance (reference : Reference) (saved : SavedInstance) : StoreStep := fun store =>
  let packageId : Value := .int saved.packageId
  if (reference.catalog.package? packageId).isSome then do
    let params ← acceptValues (reference.catalog.coerceLocal packageId)
      (reference.catalog.defaultLocals packageId) saved.params
    return { store with instances := store.instances.insert saved.id ⟨packageId, params⟩ }
  else .ok store

def restorePrices (saved : SavedState) : StoreStep := fun store => do
  let prices ← acceptEntries Override.price (asValues saved.prices)
  return { store with overlay := { store.overlay with prices } }

def restoreMarkups (saved : SavedState) : StoreStep := fun store => do
  let markups ← acceptEntries Override.markup (asValues saved.markups)
  return { store with overlay := { store.overlay with markups } }

def restoreQuantities (saved : SavedState) : StoreStep := fun store => do
  let quantities ← acceptEntries Override.quantity
    (saved.quantities.entries.map fun (key, n) => (key, .int n))
  return { store with overlay := { store.overlay with quantities } }

def restoreHours (saved : SavedState) : StoreStep := fun store => do
  let hours ← acceptHours saved.hours
  return { store with overlay := { store.overlay with hours } }

def restoreWages (saved : SavedState) : StoreStep := fun store => do
  return { store with wages := ← acceptRoles Override.wage saved.wages }

def restoreSwaps (reference : Reference) (saved : SavedState) : StoreStep := fun store =>
  let known := saved.swaps.entries.filter fun entry =>
    (reference.catalog.product? entry.2).isSome
  .ok { store with overlay := { store.overlay with swaps := .ofList known } }

def restoreRemoved (saved : SavedState) : StoreStep := fun store =>
  .ok { store with overlay := { store.overlay with removed := saved.removed.eraseDups } }

/-- The steps that restore a state, in order. -/
def steps (reference : Reference) (saved : SavedState) : List StoreStep :=
  [restoreLocation reference saved, restoreGlobals reference saved, clearInstances] ++
    saved.instances.map (restoreInstance reference) ++
    [restorePrices saved, restoreMarkups saved, restoreQuantities saved, restoreHours saved,
      restoreWages saved, restoreSwaps reference saved, restoreRemoved saved]

end SavedState

/-- Texts in order. -/
def sortedTexts (texts : List String) : List String := texts.mergeSort fun a b => a ≤ b

namespace Store

/-- The figures of the roles that have one, by name. -/
def namedRoles (figures : PerRole (Option Float)) : OrderedMap String Float :=
  .ofList (figures.toList.filterMap fun (role, x) => x.map fun x => (role.name, x))

/-- What is saved of a store. -/
def saved (store : Store) : SavedState :=
  { location := store.location
    globals := store.globals
    instances := store.instances.entries.map fun (id, selection) =>
      ⟨id, selection.packageId.whole?.getD 0, selection.params⟩
    prices := store.overlay.prices
    markups := store.overlay.markups
    hours := store.overlay.hours.mapValues namedRoles
    quantities := store.overlay.quantities
    swaps := store.overlay.swaps
    removed := sortedTexts store.overlay.removed
    wages := namedRoles store.wages }

end Store

end WiringQuote
