import WiringQuote.Service.Address
import WiringQuote.Session.Write
import WiringQuote.Text.UpperCase

/-!
# Requests

A request has a method, an address and perhaps a body. Together they make a command: to open a
session, to show something of one, to write to one, or to close one. A request that makes no command
is refused before any session is looked at: because nothing has its address, because what has it does
not take its method, or because of its body. Slashes at the end of an address do not count where it
names something without them, nor does a line end behind a fixed name.
-/

namespace WiringQuote.Service

open Text Value

inductive Method where
  | get
  | head
  | post
  | put
  | delete
deriving DecidableEq, Repr

def Method.ofName? (s : String) : Option Method :=
  let name := Text.upper s
  if name = "GET" then some .get
  else if name = "HEAD" then some .head
  else if name = "POST" then some .post
  else if name = "PUT" then some .put
  else if name = "DELETE" then some .delete
  else none

structure Request where
  /-- None for a method that nothing takes. -/
  method : Option Method
  address : Address
  body : Option Value

/-! ## What addresses name -/

/-- What can be addressed of a session. -/
inductive Part where
  | whole
  | state
  | packages
  | parameters
  | parameter (key : String)
  | location
  | instances
  | selection (id : String)
  | instanceParameter (id key : String)
  | rows
  | row (id : String)
  | alternatives (id : String)
  | price (id : String)
  | markup (id : String)
  | hours (id role : String)
  | quantity (id : String)
  | product (id : String)
  | wage (role : String)
  | totals
  | quote
deriving DecidableEq, Repr

/-- What can be addressed. -/
inductive Resource where
  | health
  /-- A page about the service. -/
  | documentation
  | sessions
  | session (id : String) (part : Part)
deriving DecidableEq, Repr

def Part.ofPath? : List String → Option Part
  | [] => some .whole
  | ["state"] => some .state
  | ["packages"] => some .packages
  | ["parameters"] => some .parameters
  | ["params", key] => some (.parameter key)
  | ["location"] => some .location
  | ["instances"] => some .instances
  | ["instances", id] => some (.selection id)
  | ["instances", id, "params", key] => some (.instanceParameter id key)
  | ["line-items"] => some .rows
  | ["line-items", id] => some (.row id)
  | ["line-items", id, "alternatives"] => some (.alternatives id)
  | ["line-items", id, "price"] => some (.price id)
  | ["line-items", id, "markup"] => some (.markup id)
  | ["line-items", id, "hours", role] => some (.hours id role)
  | ["line-items", id, "quantity"] => some (.quantity id)
  | ["line-items", id, "product"] => some (.product id)
  | ["wages", role] => some (.wage role)
  | ["totals"] => some .totals
  | ["quote"] => some .quote
  | _ => none

/-- What the parts of a path name; none of them is empty. -/
def Resource.ofParts? (path : List String) : Option Resource :=
  if path.any (·.isEmpty) then none
  else match path with
    | ["health"] => some .health
    | ["docs"] | ["docs", "oauth2-redirect"] | ["redoc"] | ["openapi.json"] => some .documentation
    | ["api", "configurator", "sessions"] => some .sessions
    | "api" :: "configurator" :: "sessions" :: id :: part => (Part.ofPath? part).map (.session id)
    | _ => none

/-- The text without a line end behind it. -/
def withoutLineEnd (s : String) : String :=
  match s.toList.reverse with
  | '\n' :: rest => String.ofList rest.reverse
  | _ => s

/-- What a decoded path names. -/
def Resource.ofPath? (path : String) : Option Resource :=
  let parts (s : String) : List String := (pieces '/' s).drop 1
  (Resource.ofParts? (parts path)).orElse fun _ => Resource.ofParts? (parts (withoutLineEnd path))

/-! ## Commands -/

/-- What is shown of a session. -/
inductive View where
  | all
  | state
  | packages
  | parameters
  | rows
  | alternatives (itemId : String)
  | totals (scope : String) (key : Value)
  | quote

/-- What a successful write is answered with. -/
inductive Reply where
  | all
  | newInstance
  | row (itemId : String)
  | wages
deriving DecidableEq, Repr

/-- What is done with a session. -/
inductive Action where
  | show (view : View)
  | write (write : Write) (reply : Reply)
  | close

inductive Command where
  | health
  | documentation
  | openSession (location : Option String)
  | onSession (id : String) (action : Action)

/-- Why a request makes no command. -/
inductive Refusal where
  | unknownAddress
  | methodNotAllowed
  | invalidBody
deriving DecidableEq, Repr

namespace Request

/-- What the body writes. -/
def read {α : Type} (request : Request) (ofValue? : Value → Option α) : Except Refusal α :=
  match request.body.bind ofValue? with
  | some a => .ok a
  | none => .error .invalidBody

/-- The `value` of an object, null if it has none. -/
def newValue? (v : Value) : Option Value := v.fields?.map fun _ => (v.get? "value").getD .null

/-- A field that the body must have. -/
def field {α : Type} (request : Request) (name : String) (kind : Value → Option α) :
    Except Refusal α :=
  request.read fun v => v.required name kind

/-- A write of the new value in the body. -/
def writeValue (request : Request) (reply : Reply) (write : Value → Write) :
    Except Refusal Action := do
  return .write (write (← request.read newValue?)) reply

/-- The scope and the key of the totals that are asked for. -/
def totalsView (request : Request) : View :=
  .totals ((request.address.field? "scope").getD "global")
    (ofOption .str (request.address.field? "key"))

/-- What the request does with a part of a session. -/
def action (request : Request) : Part → Method → Except Refusal Action
  | .whole, .get => .ok (.show .all)
  | .whole, .delete => .ok .close
  | .state, .get => .ok (.show .state)
  | .state, .put => do return .write (.restore (← request.read SavedState.ofValue?)) .all
  | .packages, .get => .ok (.show .packages)
  | .parameters, .get => .ok (.show .parameters)
  | .parameter key, .put => request.writeValue .all (.setGlobal (.str key))
  | .location, .put => do return .write (.setLocation (.str (← request.field "location_id" text?))) .all
  | .instances, .post => do
    return .write (.selectPackage (.int (← request.field "package_id" int?))) .newInstance
  | .selection id, .delete => .ok (.write (.removeInstance (.str id)) .all)
  | .instanceParameter id key, .put => request.writeValue .all (.setLocal (.str id) (.str key))
  | .rows, .get => .ok (.show .rows)
  | .row id, .delete => .ok (.write (.removeItem (.str id)) .all)
  | .alternatives id, .get => .ok (.show (.alternatives id))
  | .price id, .put => request.writeValue (.row id) (.setPrice (.str id))
  | .markup id, .put => request.writeValue (.row id) (.setMarkup (.str id))
  | .markup id, .delete => .ok (.write (.setMarkup (.str id) .null) (.row id))
  | .hours id role, .put => request.writeValue (.row id) (.setHours (.str id) (.str role))
  | .quantity id, .put => request.writeValue .all (.setQuantity (.str id))
  | .product id, .put => do return .write (.swap (.str id) (.str (← request.field "product_id" text?))) .all
  | .wage role, .put => request.writeValue .wages (.setWage (.str role))
  | .totals, .get => .ok (.show request.totalsView)
  | .quote, .get => .ok (.show .quote)
  | _, _ => .error .methodNotAllowed

/-- The location that a new session is asked to have. -/
def askedLocation? (v : Value) : Option (Option String) := do
  let _ ← v.fields?
  v.optional "location_id" text?

/-- The command that the request makes of what it names. -/
def commandFor (request : Request) (resource : Option Resource) : Except Refusal Command :=
  match resource with
  | none => .error .unknownAddress
  | some resource =>
    match resource, request.method with
    | .health, some .get => .ok .health
    | .documentation, some .get | .documentation, some .head => .ok .documentation
    | .sessions, some .post => (request.read askedLocation?).map .openSession
    | .session id part, some method => (request.action part method).map (.onSession id)
    | _, _ => .error .methodNotAllowed

/-- The request with another path, which is read like any address. -/
def redirected (request : Request) (path : String) : Request :=
  { request with address := .ofText (path ++ "?" ++ request.address.query) }

/-- The command that the request makes. -/
def command (request : Request) : Except Refusal Command :=
  match Resource.ofPath? request.address.path, request.address.trimmedPath? with
  | none, some path =>
    if (Resource.ofPath? path).isSome then
      let again := request.redirected path
      again.commandFor (Resource.ofPath? again.address.path)
    else .error .unknownAddress
  | resource, _ => request.commandFor resource

end Request

end WiringQuote.Service
