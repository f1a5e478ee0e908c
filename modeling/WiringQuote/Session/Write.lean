import WiringQuote.Session.Figures
import WiringQuote.Session.Restore

/-!
# Writing to a session

A write is carried out step by step. A step reads the session and may refuse, or it changes the store, or
it resolves the store and shows it. Where a step is at fault the write ends, and what the steps before it
changed stays changed. So every write makes its checks before its first change.

After the changes the store is resolved. Should that fail for arithmetic, the store stays and the display
remains that of the store before. Only the wages are not resolved, since no row depends on them.
-/

namespace WiringQuote

open Decimal

/-- A change that a user asks for. -/
inductive Write where
  | selectPackage (packageId : Value)
  | removeInstance (instanceId : Value)
  | setGlobal (key value : Value)
  | setLocal (instanceId key value : Value)
  | setLocation (locationId : Value)
  | setPrice (itemId value : Value)
  /-- A blank value takes the markup of the row back. -/
  | setMarkup (itemId value : Value)
  | setHours (itemId role value : Value)
  | setQuantity (itemId value : Value)
  | swap (itemId productId : Value)
  | removeItem (itemId : Value)
  | setWage (role value : Value)
  | restore (saved : SavedState)

/-- The result of a write and the session after it. -/
abbrev Written := Except SessionFault Unit × Session

namespace Session

/-! ## What is checked -/

/-- The id of a new instance, from a tag that no other instance has. -/
def instanceId (packageId : Value) (tag : String) : String := packageId.text ++ "-" ++ tag

/-- A selection of a known package, with the defaults of its parameters. -/
def newSelection (session : Session) (packageId : Value) : Except SessionFault Selection :=
  if !packageId.isKey then .error (.unusableKey packageId.kindName)
  else if (session.catalog.package? packageId).isSome then
    .ok ⟨packageId, session.catalog.defaultLocals packageId⟩
  else .error (.unknownPackage packageId)

/-- A selected package with its id. -/
def selectionAt (session : Session) (key : Value) : Except SessionFault (String × Selection) := do
  let id ← session.instanceKey key
  match session.store.instances.get? id with
  | some selection => return (id, selection)
  | none => throw (.unknownInstance key)

/-- A global parameter with its new value. -/
def globalValue (session : Session) (key value : Value) : Except SessionFault (String × Value) := do
  let name ← lookupName (.parameter (.unknown key.text)) key
  return (name, ← (session.catalog.coerceGlobal name value).mapError .ofParameter)

/-- The parameter of a package with its new value. -/
def localValue (session : Session) (packageId key value : Value) :
    Except SessionFault (String × Value) :=
  match key.text? with
  | none => .error (.parameter (.notExposed key.text packageId))
  | some name => do
    return (name, ← (session.catalog.coerceLocal packageId name value).mapError .ofParameter)

def locationKey (session : Session) (key : Value) : Except SessionFault String := do
  let id ← lookupName (.unknownLocation key) key
  if session.reference.locations.contains id then return id else throw (.unknownLocation key)

/-- The product that a key names, if it can stand in for that of a row. -/
def alternativeKey (session : Session) (item : LineItem) (productKey : Value) :
    Except SessionFault String := do
  let notAlternative : SessionFault := .override (.notAlternative productKey item.group)
  let productId ← lookupName notAlternative productKey
  match (session.catalog.product? productId).filter
      (Overlay.isAlternative session.locationName item) with
  | none => throw notAlternative
  | some _ => return productId

/-- Another displayed row of the same selected package that has the product. -/
def clash? (session : Session) (item : LineItem) (productId : String) : Option LineItem :=
  session.rows.find? fun other =>
    other.id != item.id && other.instanceId == item.instanceId && other.productId == productId

/-- The selected package does not show the product in another row. -/
def checkClash (session : Session) (item : LineItem) (productId : String) :
    Except SessionFault Unit :=
  match session.clash? item productId with
  | some other => .error (.override (.alreadyPresent item.instanceId productId other.id))
  | none => .ok ()

end Session

/-! ## Entries of set hours -/

namespace Overlay

/-- The entries with one for the row, in which no hours are set if it is new. -/
def withEntry (itemId : String) (entries : OrderedMap String (PerRole (Option Float))) :
    OrderedMap String (PerRole (Option Float)) :=
  if entries.contains itemId then entries else entries.insert itemId (.const none)

/-- The hours of a role in the entry of the row, if there is one. -/
def setInEntry (itemId : String) (role : Role) (hours : Option Float)
    (entries : OrderedMap String (PerRole (Option Float))) :
    OrderedMap String (PerRole (Option Float)) :=
  match entries.get? itemId with
  | some entry => entries.insert itemId (entry.set role hours)
  | none => entries

/-- The entries without that of the row if no hours are set in it. -/
def dropBlankEntry (itemId : String) (entries : OrderedMap String (PerRole (Option Float))) :
    OrderedMap String (PerRole (Option Float)) :=
  if (entries.get? itemId).getD (.const none) = .const none then entries.erase itemId else entries

end Overlay

/-! ## Steps -/

/-- A step of a write, or several. It ends in a result or a fault, and leaves a session in either case. -/
structure Action (α : Type) where
  run : Session → Except SessionFault α × Session

namespace Action

variable {α β : Type}

/-- The second action goes on from what the first one leaves, unless that is at fault. -/
protected def bind (act : Action α) (next : α → Action β) : Action β where
  run session :=
    match act.run session with
    | (.ok a, after) => (next a).run after
    | (.error fault, after) => (.error fault, after)

instance : Monad Action where
  pure a := ⟨fun session => (.ok a, session)⟩
  bind := Action.bind

/-- Reads the session, which may refuse. -/
def check (ask : Session → Except SessionFault α) : Action α where
  run session := (ask session, session)

/-- Changes the store. -/
def change (f : Store → Store) : Action Unit where
  run session := (.ok (), { session with store := f session.store })

def changeOverlay (f : Overlay → Overlay) : Action Unit :=
  change fun store => { store with overlay := f store.overlay }

/-- Looks whether there are wages for the location. -/
def checkRates : Action Unit where
  run session := (.ok (), { session with store := session.store.checkRates session.reference })

/-- Resolves the store and shows it. -/
def recalculate : Action Unit where
  run session :=
    match session.store.display session.reference with
    | .ok display => (.ok (), { session with display })
    | .error fault => (.error (.arithmetic fault), session)

/-- Takes the steps of restoring a state up to the first that fails. -/
def takeSteps (saved : SavedState) : Action Unit where
  run session :=
    match StoreStep.run (saved.steps session.reference) session.store with
    | (.ok _, store) => (.ok (), { session with store })
    | (.error fault, store) => (.error (.arithmetic fault), { session with store })

/-! ## Writes -/

/-- Adds a selected package; `tag` makes its id. -/
def selectPackage (packageId : Value) (tag : String) : Action Unit := do
  let selection ← check (·.newSelection packageId)
  change fun store => { store with
    instances := store.instances.insert (Session.instanceId packageId tag) selection }
  recalculate

def removeInstance (instanceId : Value) : Action Unit := do
  let id ← check (·.instanceKey instanceId)
  change fun store => { store with instances := store.instances.erase id }
  changeOverlay (·.dropRows (id ++ "-"))
  recalculate

def setGlobal (key value : Value) : Action Unit := do
  let (name, coerced) ← check (·.globalValue key value)
  change fun store => { store with globals := store.globals.insert name coerced }
  recalculate

def setLocal (instanceId key value : Value) : Action Unit := do
  let (id, selection) ← check (·.selectionAt instanceId)
  let (name, coerced) ← check (·.localValue selection.packageId key value)
  change fun store => { store with
    instances := store.instances.insert id
      { selection with params := selection.params.insert name coerced } }
  recalculate

def setLocation (locationId : Value) : Action Unit := do
  let id ← check (·.locationKey locationId)
  change fun store => { store with location := some id }
  checkRates
  recalculate

/-- Sets a figure of a row in its part of the overlay, or takes it back for a blank value. -/
def setFigure {α : Type} (part : (OrderedMap String α → OrderedMap String α) → Overlay → Overlay)
    (clean : Value → Except OverrideFault α) (itemId value : Value) : Action Unit := do
  let item ← check (·.findRow itemId)
  if Override.isBlank value then
    changeOverlay (part (·.erase item.id))
  else
    let figure ← check fun _ => (clean value).mapError .ofOverride
    changeOverlay (part (·.insert item.id figure))
  recalculate

def setPrice : Value → Value → Action Unit :=
  setFigure (fun f overlay => { overlay with prices := f overlay.prices }) Override.price

def setMarkup : Value → Value → Action Unit :=
  setFigure (fun f overlay => { overlay with markups := f overlay.markups }) Override.markup

/-- Sets the hours of a role in the entry of a row, which is made for them if there is none, or takes them
back for a blank value, and the entry with them if it was for nothing else. -/
def setHours (itemId roleName value : Value) : Action Unit := do
  let role ← check fun _ => (Override.role roleName).mapError .ofOverride
  let item ← check (·.findRow itemId)
  let changeHours (f : OrderedMap String (PerRole (Option Float)) →
      OrderedMap String (PerRole (Option Float))) : Action Unit :=
    changeOverlay fun overlay => { overlay with hours := f overlay.hours }
  if Override.isBlank value then
    changeHours (Overlay.setInEntry item.id role none)
    changeHours (Overlay.dropBlankEntry item.id)
  else
    let hours ← check fun _ => (Override.hours value).mapError .ofOverride
    changeHours (Overlay.withEntry item.id)
    changeHours (Overlay.setInEntry item.id role (some hours))
  recalculate

def setQuantity (itemId value : Value) : Action Unit := do
  let quantity ← check fun _ => (Override.quantity value).mapError .ofOverride
  let item ← check (·.findRow itemId)
  changeOverlay fun overlay => { overlay with
    quantities := overlay.quantities.insert item.id quantity }
  recalculate

def swap (itemId productKey : Value) : Action Unit := do
  let item ← check (·.findRow itemId)
  let productId ← check (·.alternativeKey item productKey)
  check (·.checkClash item productId)
  changeOverlay fun overlay => { overlay with swaps := overlay.swaps.insert item.id productId }
  recalculate

def removeItem (itemId : Value) : Action Unit := do
  let item ← check (·.findRow itemId)
  changeOverlay fun overlay => { overlay with removed := (overlay.removed ++ [item.id]).eraseDups }
  recalculate

/-- Sets the wage of a role, or takes it back for a blank value. -/
def setWage (roleName value : Value) : Action Unit := do
  let role ← check fun _ => (Override.role roleName).mapError .ofOverride
  if Override.isBlank value then
    change fun store => { store with wages := store.wages.set role none }
  else
    let wage ← check fun _ => (Override.wage value).mapError .ofOverride
    change fun store => { store with wages := store.wages.set role (some wage) }

def restore (saved : SavedState) : Action Unit := do
  takeSteps saved
  recalculate

/-- Restores the state that a value writes. A value that writes none is refused. -/
def restoreValue (value : Value) : Action Unit := do
  let saved ← check fun _ =>
    match SavedState.ofValue? value with
    | some saved => .ok saved
    | none => .error .invalidState
  restore saved

end Action

/-- The steps of a write; `tag` makes the id of an instance that it adds. -/
def Write.action (tag : String) : Write → Action Unit
  | .selectPackage packageId => .selectPackage packageId tag
  | .removeInstance instanceId => .removeInstance instanceId
  | .setGlobal key value => .setGlobal key value
  | .setLocal instanceId key value => .setLocal instanceId key value
  | .setLocation locationId => .setLocation locationId
  | .setPrice itemId value => .setPrice itemId value
  | .setMarkup itemId value => .setMarkup itemId value
  | .setHours itemId role value => .setHours itemId role value
  | .setQuantity itemId value => .setQuantity itemId value
  | .swap itemId productId => .swap itemId productId
  | .removeItem itemId => .removeItem itemId
  | .setWage role value => .setWage role value
  | .restore saved => .restore saved

namespace Session

def write (session : Session) (tag : String) (w : Write) : Written := (w.action tag).run session

def restoreValue (session : Session) (value : Value) : Written :=
  (Action.restoreValue value).run session

/-- The write takes a tag, whether or not it then succeeds. -/
def takesTag (session : Session) : Write → Bool
  | .selectPackage packageId => (session.catalog.package? packageId).isSome
  | _ => false

end Session

end WiringQuote
