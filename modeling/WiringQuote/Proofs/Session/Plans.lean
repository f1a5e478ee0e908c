import WiringQuote.Proofs.Fallible
import WiringQuote.Proofs.OrderedMap
import WiringQuote.Session.Write

/-!
# Writes as plans

The steps of a write come to this: all checks plan a new store from the session, and the store is taken
over and resolved; a write that is refused plans none.

* `planSelect` and its like: the store that a write plans, or why it is refused.
* `write_eq`: a write carries out its plan.
-/

namespace WiringQuote

open Decimal Fallible

/-! ## Steps -/

namespace Action

variable {s t : Session} {α β : Type} {act : Action α} {next : α → Action β}

theorem run_bind_ok {a : α} (done : act.run s = (.ok a, t)) :
    (act >>= next).run s = (next a).run t := by
  show (Action.bind act next).run s = _
  unfold Action.bind
  dsimp only
  rw [done]

theorem run_bind_error {fault : SessionFault} (failed : act.run s = (.error fault, t)) :
    (act >>= next).run s = (.error fault, t) := by
  show (Action.bind act next).run s = _
  unfold Action.bind
  dsimp only
  rw [failed]

/-- A fault is that of the first action, or that of the second one after what the first one leaves. -/
theorem run_bind_error_iff {fault : SessionFault} : (act >>= next).run s = (.error fault, t) ↔
    act.run s = (.error fault, t) ∨
      ∃ a middle, act.run s = (.ok a, middle) ∧ (next a).run middle = (.error fault, t) := by
  generalize ended : act.run s = outcome
  obtain ⟨other | a, middle⟩ := outcome
  · rw [run_bind_error ended]
    simp
  · rw [run_bind_ok ended]
    simp

variable {ask : Session → Except SessionFault α}

theorem run_check_ok {a : α} (passes : ask s = .ok a) :
    (check ask >>= next).run s = (next a).run s := run_bind_ok (congrArg (·, s) passes)

theorem run_check_error {fault : SessionFault} (refuses : ask s = .error fault) :
    (check ask >>= next).run s = (.error fault, s) := run_bind_error (congrArg (·, s) refuses)

end Action

namespace Session

/-! ## What passes the checks -/

section Checks

variable {s : Session} {key value : Value}

theorem newSelection_ok {packageId : Value} {selection : Selection}
    (made : s.newSelection packageId = .ok selection) :
    (s.catalog.package? packageId).isSome = true ∧
      selection = ⟨packageId, s.catalog.defaultLocals packageId⟩ := by
  unfold newSelection at made
  split at made
  · cases made
  · split at made
    · rename_i known
      cases made
      exact ⟨known, rfl⟩
    · cases made

theorem selectionAt_ok {id : String} {selection : Selection}
    (found : s.selectionAt key = .ok (id, selection)) :
    s.instanceKey key = .ok id ∧ s.store.instances.get? id = some selection := by
  unfold selectionAt at found
  obtain ⟨own, named, found⟩ := bind_ok_iff.1 found
  split at found
  · rename_i selected
    cases found
    exact ⟨named, selected⟩
  · cases found

theorem globalValue_ok {name : String} {coerced : Value}
    (accepted : s.globalValue key value = .ok (name, coerced)) :
    s.catalog.coerceGlobal name value = .ok coerced := by
  unfold globalValue at accepted
  obtain ⟨own, _, accepted⟩ := bind_ok_iff.1 accepted
  obtain ⟨_, coercion, same⟩ := bind_ok_iff.1 accepted
  cases same
  exact mapError_ok_iff.1 coercion

theorem localValue_ok {packageId : Value} {name : String} {coerced : Value}
    (accepted : s.localValue packageId key value = .ok (name, coerced)) :
    s.catalog.coerceLocal packageId name value = .ok coerced := by
  unfold localValue at accepted
  split at accepted
  · cases accepted
  · obtain ⟨_, coercion, same⟩ := bind_ok_iff.1 accepted
    cases same
    exact mapError_ok_iff.1 coercion

theorem locationKey_ok {id : String} (known : s.locationKey key = .ok id) :
    s.reference.locations.contains id = true := by
  unfold locationKey at known
  obtain ⟨own, _, known⟩ := bind_ok_iff.1 known
  split at known
  · rename_i listed
    cases known
    exact listed
  · cases known

theorem alternativeKey_ok {item : LineItem} {productId : String}
    (standsIn : s.alternativeKey item key = .ok productId) :
    ∃ product, s.catalog.product? productId = some product ∧
      Overlay.isAlternative s.locationName item product = true := by
  unfold alternativeKey at standsIn
  obtain ⟨own, _, standsIn⟩ := bind_ok_iff.1 standsIn
  split at standsIn
  · cases standsIn
  · rename_i product found
    cases standsIn
    exact ⟨product, Option.filter_eq_some_iff.1 found⟩

theorem alternativeKey_str {item : LineItem} {named productId : String}
    (standsIn : s.alternativeKey item (.str named) = .ok productId) : productId = named := by
  unfold alternativeKey at standsIn
  obtain ⟨own, isText, standsIn⟩ := bind_ok_iff.1 standsIn
  cases isText
  split at standsIn <;> cases standsIn
  rfl

theorem alternativeKey_of_product {item : LineItem} {productId : String}
    (standsIn : ∃ product, s.catalog.product? productId = some product ∧
      Overlay.isAlternative s.locationName item product = true) :
    s.alternativeKey item (.str productId) = .ok productId := by
  obtain ⟨product, found⟩ := standsIn
  refine bind_ok_iff.2 ⟨productId, rfl, ?_⟩
  rw [Option.filter_eq_some_iff.2 found]
  rfl

theorem checkClash_ok_iff {item : LineItem} {productId : String} :
    s.checkClash item productId = .ok () ↔ s.clash? item productId = none := by
  unfold checkClash
  cases s.clash? item productId <;> simp

end Checks

/-! ## Plans -/

def planSelect (session : Session) (packageId : Value) (tag : String) :
    Except SessionFault Store := do
  let selection ← session.newSelection packageId
  return { session.store with
    instances := session.store.instances.insert (instanceId packageId tag) selection }

def planRemoveInstance (session : Session) (key : Value) : Except SessionFault Store := do
  let id ← session.instanceKey key
  return { session.store with
    instances := session.store.instances.erase id
    overlay := session.store.overlay.dropRows (id ++ "-") }

def planGlobal (session : Session) (key value : Value) : Except SessionFault Store := do
  let (name, coerced) ← session.globalValue key value
  return { session.store with globals := session.store.globals.insert name coerced }

def planLocal (session : Session) (instanceKey key value : Value) :
    Except SessionFault Store := do
  let (id, selection) ← session.selectionAt instanceKey
  let (name, coerced) ← session.localValue selection.packageId key value
  let changed := { selection with params := selection.params.insert name coerced }
  return { session.store with instances := session.store.instances.insert id changed }

def planLocation (session : Session) (key : Value) : Except SessionFault Store := do
  let id ← session.locationKey key
  return { session.store with location := some id }.checkRates session.reference

/-- The store with a changed overlay. -/
def overlaid (session : Session) (overlay : Overlay) : Store := { session.store with overlay }

/-- Sets the entry of a row, or takes it back for a blank value. -/
def setEntry {α : Type} (entries : OrderedMap String α) (itemId : String)
    (clean : Value → Except OverrideFault α) (value : Value) :
    Except SessionFault (OrderedMap String α) :=
  if Override.isBlank value then .ok (entries.erase itemId)
  else do return entries.insert itemId (← (clean value).mapError .ofOverride)

def planPrice (session : Session) (itemId value : Value) : Except SessionFault Store := do
  let item ← session.findRow itemId
  let overlay := session.store.overlay
  let prices ← setEntry overlay.prices item.id Override.price value
  return session.overlaid { overlay with prices }

def planMarkup (session : Session) (itemId value : Value) : Except SessionFault Store := do
  let item ← session.findRow itemId
  let overlay := session.store.overlay
  let markups ← setEntry overlay.markups item.id Override.markup value
  return session.overlaid { overlay with markups }

/-- The entries with the hours of a row; a row without set hours has no entry. -/
def setHours (entries : OrderedMap String (PerRole (Option Float))) (itemId : String)
    (hours : PerRole (Option Float)) : OrderedMap String (PerRole (Option Float)) :=
  if hours = .const none then entries.erase itemId else entries.insert itemId hours

def planHours (session : Session) (itemId roleName value : Value) :
    Except SessionFault Store := do
  let role ← (Override.role roleName).mapError .ofOverride
  let item ← session.findRow itemId
  let overlay := session.store.overlay
  let current := (overlay.hours.get? item.id).getD (.const none)
  let set ←
    if Override.isBlank value then .ok none
    else ((Override.hours value).mapError .ofOverride).map some
  return session.overlaid { overlay with hours := setHours overlay.hours item.id (current.set role set) }

def planQuantity (session : Session) (itemId value : Value) : Except SessionFault Store := do
  let quantity ← (Override.quantity value).mapError .ofOverride
  let item ← session.findRow itemId
  let overlay := session.store.overlay
  return session.overlaid { overlay with quantities := overlay.quantities.insert item.id quantity }

def planSwap (session : Session) (itemId productKey : Value) : Except SessionFault Store := do
  let item ← session.findRow itemId
  let productId ← session.alternativeKey item productKey
  session.checkClash item productId
  let overlay := session.store.overlay
  return session.overlaid { overlay with swaps := overlay.swaps.insert item.id productId }

def planRemoveItem (session : Session) (itemId : Value) : Except SessionFault Store := do
  let item ← session.findRow itemId
  let overlay := session.store.overlay
  return session.overlaid { overlay with removed := (overlay.removed ++ [item.id]).eraseDups }

def planWage (session : Session) (roleName value : Value) : Except SessionFault Store := do
  let role ← (Override.role roleName).mapError .ofOverride
  let set ←
    if Override.isBlank value then .ok none
    else ((Override.wage value).mapError .ofOverride).map some
  return { session.store with wages := session.store.wages.set role set }

/-! ## Carrying out -/

/-- Takes over a store and resolves it. -/
def commit (session : Session) (store : Store) : Written :=
  match store.display session.reference with
  | .ok display => (.ok (), { session with store, display })
  | .error fault => (.error (.arithmetic fault), { session with store })

/-- Commits a planned store; a refusal changes nothing. -/
def carryOut (session : Session) (plan : Except SessionFault Store) : Written :=
  match plan with
  | .ok store => session.commit store
  | .error fault => (.error fault, session)

/-- Takes over a store that shows in no row. -/
def keep (session : Session) (plan : Except SessionFault Store) : Written :=
  match plan with
  | .ok store => (.ok (), { session with store })
  | .error fault => (.error fault, session)

/-- Restores a saved state. -/
def restore (session : Session) (saved : SavedState) : Written :=
  match StoreStep.run (saved.steps session.reference) session.store with
  | (.ok _, store) => session.commit store
  | (.error fault, store) => (.error (.arithmetic fault), { session with store })

/-- A write by its plan. -/
def writePlanned (session : Session) (tag : String) : Write → Written
  | .selectPackage packageId => session.carryOut (session.planSelect packageId tag)
  | .removeInstance id => session.carryOut (session.planRemoveInstance id)
  | .setGlobal key value => session.carryOut (session.planGlobal key value)
  | .setLocal id key value => session.carryOut (session.planLocal id key value)
  | .setLocation id => session.carryOut (session.planLocation id)
  | .setPrice itemId value => session.carryOut (session.planPrice itemId value)
  | .setMarkup itemId value => session.carryOut (session.planMarkup itemId value)
  | .setHours itemId role value => session.carryOut (session.planHours itemId role value)
  | .setQuantity itemId value => session.carryOut (session.planQuantity itemId value)
  | .swap itemId productId => session.carryOut (session.planSwap itemId productId)
  | .removeItem itemId => session.carryOut (session.planRemoveItem itemId)
  | .setWage role value => session.keep (session.planWage role value)
  | .restore saved => session.restore saved

/-! ## Entries of set hours -/

/-- Blank hours in the entry of a row, which goes if it is left blank. -/
theorem dropBlankEntry_setInEntry (entries : OrderedMap String (PerRole (Option Float)))
    (itemId : String) (role : Role) :
    Overlay.dropBlankEntry itemId (Overlay.setInEntry itemId role none entries) =
      setHours entries itemId
        (((entries.get? itemId).getD (.const none)).set role none) := by
  unfold Overlay.dropBlankEntry Overlay.setInEntry setHours
  cases found : entries.get? itemId with
  | none =>
    have blank : (PerRole.const none).set role none = (.const none : PerRole (Option Float)) := by
      cases role <;> rfl
    simp only [found, Option.getD_none, blank, if_true]
  | some entry =>
    simp only [OrderedMap.get?_insert, if_true, Option.getD_some, OrderedMap.erase_insert]

/-- An entry is made for the hours of a role if there is none. -/
theorem setInEntry_withEntry (entries : OrderedMap String (PerRole (Option Float)))
    (itemId : String) (role : Role) (hours : Float) :
    Overlay.setInEntry itemId role (some hours) (Overlay.withEntry itemId entries) =
      setHours entries itemId
        (((entries.get? itemId).getD (.const none)).set role (some hours)) := by
  have filled (entry : PerRole (Option Float)) : entry.set role (some hours) ≠ .const none := by
    intro blank
    have own := congrArg (·.get role) blank
    cases role <;> cases own
  unfold Overlay.withEntry Overlay.setInEntry setHours OrderedMap.contains
  rw [if_neg (filled _)]
  cases found : entries.get? itemId with
  | none =>
    simp only [Option.isSome_none, Bool.false_eq_true, if_false, OrderedMap.get?_insert, if_true,
      Option.getD_none, OrderedMap.insert_insert]
  | some entry => simp only [Option.isSome_some, if_true, found, Option.getD_some]

/-! ## Steps and plans -/

/-- A set figure is what was cleaned. -/
theorem map_bind_some {ε α β : Type} (cleaned : Except ε α) (next : Option α → Except ε β) :
    (cleaned.map some >>= next) = cleaned >>= fun a => next (some a) := by
  cases cleaned <;> rfl

section Steps

variable {s : Session} {α : Type}

/-- A check is the first part of a plan, however plans are carried out, as long as a refused one changes
nothing. -/
theorem check_first {finish : Except SessionFault Store → Written}
    (unchanged : ∀ fault, finish (.error fault) = (.error fault, s))
    {ask : Session → Except SessionFault α} {next : α → Action Unit}
    {plan : α → Except SessionFault Store} (same : ∀ a, (next a).run s = finish (plan a)) :
    (Action.check ask >>= next).run s = finish (ask s >>= plan) := by
  cases asked : ask s with
  | ok a => exact (Action.run_check_ok asked).trans (same a)
  | error fault => exact (Action.run_check_error asked).trans (unchanged fault).symm

theorem check_bind {ask : Session → Except SessionFault α} {next : α → Action Unit}
    {plan : α → Except SessionFault Store} (same : ∀ a, (next a).run s = s.carryOut (plan a)) :
    (Action.check ask >>= next).run s = s.carryOut (ask s >>= plan) :=
  check_first (fun _ => rfl) same

theorem check_keep {ask : Session → Except SessionFault α} {next : α → Action Unit}
    {plan : α → Except SessionFault Store} (same : ∀ a, (next a).run s = s.keep (plan a)) :
    (Action.check ask >>= next).run s = s.keep (ask s >>= plan) :=
  check_first (fun _ => rfl) same

theorem change_bind (f : Store → Store) (next : Unit → Action α) :
    (Action.change f >>= next).run s = (next ()).run { s with store := f s.store } := rfl

theorem changeOverlay_bind (f : Overlay → Overlay) (next : Unit → Action α) :
    (Action.changeOverlay f >>= next).run s =
      (next ()).run { s with store := s.overlaid (f s.store.overlay) } := rfl

theorem checkRates_bind (next : Unit → Action α) : (Action.checkRates >>= next).run s =
    (next ()).run { s with store := s.store.checkRates s.reference } := rfl

/-- The last step takes over the changed store and resolves it. -/
theorem recalculate_eq (store : Store) : Action.recalculate.run { s with store } = s.commit store := by
  cases shown : store.display s.reference <;> simp only [Action.recalculate, commit, shown]

theorem selectPackage_eq (packageId : Value) (tag : String) :
    (Action.selectPackage packageId tag).run s = s.carryOut (s.planSelect packageId tag) := by
  refine check_bind fun selection => ?_
  rw [change_bind]
  exact recalculate_eq _

theorem removeInstance_eq (key : Value) :
    (Action.removeInstance key).run s = s.carryOut (s.planRemoveInstance key) := by
  refine check_bind fun id => ?_
  rw [change_bind, changeOverlay_bind]
  exact recalculate_eq _

theorem setGlobal_eq (key value : Value) :
    (Action.setGlobal key value).run s = s.carryOut (s.planGlobal key value) := by
  refine check_bind fun ⟨name, coerced⟩ => ?_
  dsimp only
  rw [change_bind]
  exact recalculate_eq _

theorem setLocal_eq (instanceKey key value : Value) :
    (Action.setLocal instanceKey key value).run s = s.carryOut (s.planLocal instanceKey key value) := by
  refine check_bind fun ⟨id, selection⟩ => check_bind fun ⟨name, coerced⟩ => ?_
  dsimp only
  rw [change_bind]
  exact recalculate_eq _

theorem setLocation_eq (key : Value) :
    (Action.setLocation key).run s = s.carryOut (s.planLocation key) := by
  refine check_bind fun id => ?_
  rw [change_bind, checkRates_bind]
  exact recalculate_eq _

/-- A figure is set in the part of the overlay that `get` reads and `put` replaces. -/
theorem setFigure_eq (get : Overlay → OrderedMap String α)
    (put : Overlay → OrderedMap String α → Overlay) (clean : Value → Except OverrideFault α)
    (itemId value : Value) :
    (Action.setFigure (fun f overlay => put overlay (f (get overlay))) clean itemId value).run s =
      s.carryOut (do
        let item ← s.findRow itemId
        let entries ← setEntry (get s.store.overlay) item.id clean value
        return s.overlaid (put s.store.overlay entries)) := by
  refine check_bind fun item => ?_
  unfold setEntry
  split
  · rw [changeOverlay_bind]
    exact recalculate_eq _
  · rw [bind_assoc]
    refine check_bind fun figure => ?_
    rw [changeOverlay_bind]
    exact recalculate_eq _

theorem setPrice_eq (itemId value : Value) :
    (Action.setPrice itemId value).run s = s.carryOut (s.planPrice itemId value) :=
  setFigure_eq (·.prices) (fun overlay prices => { overlay with prices }) _ itemId value

theorem setMarkup_eq (itemId value : Value) :
    (Action.setMarkup itemId value).run s = s.carryOut (s.planMarkup itemId value) :=
  setFigure_eq (·.markups) (fun overlay markups => { overlay with markups }) _ itemId value

theorem setHours_eq (itemId roleName value : Value) :
    (Action.setHours itemId roleName value).run s = s.carryOut (s.planHours itemId roleName value) := by
  refine check_bind fun role => check_bind fun item => ?_
  have shown {set next} (same : set = next) :
      s.commit (s.overlaid { s.store.overlay with hours := set }) =
        s.commit (s.overlaid { s.store.overlay with hours := next }) := by rw [same]
  dsimp only
  split
  · rw [changeOverlay_bind, changeOverlay_bind]
    exact (recalculate_eq _).trans (shown (dropBlankEntry_setInEntry s.store.overlay.hours item.id role))
  · rw [map_bind_some]
    refine check_bind fun hours => ?_
    rw [changeOverlay_bind, changeOverlay_bind]
    exact (recalculate_eq _).trans
      (shown (setInEntry_withEntry s.store.overlay.hours item.id role hours))

/-- The wage is set in the store and nothing is resolved. -/
theorem setWage_eq (roleName value : Value) :
    (Action.setWage roleName value).run s = s.keep (s.planWage roleName value) := by
  refine check_keep fun role => ?_
  dsimp only
  split
  · rfl
  · rw [map_bind_some]
    exact check_keep fun wage => rfl

theorem setQuantity_eq (itemId value : Value) :
    (Action.setQuantity itemId value).run s = s.carryOut (s.planQuantity itemId value) := by
  refine check_bind fun quantity => check_bind fun item => ?_
  rw [changeOverlay_bind]
  exact recalculate_eq _

theorem swap_eq (itemId productKey : Value) :
    (Action.swap itemId productKey).run s = s.carryOut (s.planSwap itemId productKey) := by
  refine check_bind fun item => check_bind fun productId => check_bind fun _ => ?_
  rw [changeOverlay_bind]
  exact recalculate_eq _

theorem removeItem_eq (itemId : Value) :
    (Action.removeItem itemId).run s = s.carryOut (s.planRemoveItem itemId) := by
  refine check_bind fun item => ?_
  rw [changeOverlay_bind]
  exact recalculate_eq _

theorem restore_eq (saved : SavedState) : (Action.restore saved).run s = s.restore saved := by
  unfold restore
  split
  · rename_i store taken
    have done : (Action.takeSteps saved).run s = (.ok (), { s with store }) := by
      unfold Action.takeSteps
      dsimp only
      rw [taken]
    exact (Action.run_bind_ok done).trans (recalculate_eq store)
  · rename_i fault store stopped
    have failed : (Action.takeSteps saved).run s =
        (.error (.arithmetic fault), { s with store }) := by
      unfold Action.takeSteps
      dsimp only
      rw [stopped]
    exact Action.run_bind_error failed

/-- A value that writes a saved state restores it. -/
theorem restoreValue_some {value : Value} {saved : SavedState}
    (read : SavedState.ofValue? value = some saved) : s.restoreValue value = s.restore saved := by
  refine (Action.run_check_ok ?_).trans (restore_eq saved)
  rw [read]

theorem restoreValue_none {value : Value} (read : SavedState.ofValue? value = none) :
    s.restoreValue value = (.error .invalidState, s) := by
  refine Action.run_check_error ?_
  rw [read]

end Steps

/-- A write carries out its plan. -/
theorem write_eq (s : Session) (tag : String) (w : Write) : s.write tag w = s.writePlanned tag w := by
  cases w with
  | selectPackage packageId => exact selectPackage_eq packageId tag
  | removeInstance id => exact removeInstance_eq id
  | setGlobal key value => exact setGlobal_eq key value
  | setLocal id key value => exact setLocal_eq id key value
  | setLocation id => exact setLocation_eq id
  | setPrice id value => exact setPrice_eq id value
  | setMarkup id value => exact setMarkup_eq id value
  | setHours id role value => exact setHours_eq id role value
  | setQuantity id value => exact setQuantity_eq id value
  | swap id product => exact swap_eq id product
  | removeItem id => exact removeItem_eq id
  | setWage role value => exact setWage_eq role value
  | restore saved => exact restore_eq saved

end Session

end WiringQuote
