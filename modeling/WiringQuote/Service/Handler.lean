import WiringQuote.Identifier
import WiringQuote.Service.Registry
import WiringQuote.Service.Request
import WiringQuote.Service.Response

/-!
# Answering requests

A request is answered from a source of reference data and the registry of open sessions, at a time.
New sessions and selected packages are named by the next identifiers.
Whatever is done with a session counts as using it, also if it fails; a refused request, or one for a
session that is not open, changes nothing.
-/

namespace WiringQuote.Service

open Decimal Value

/-! ## Showing -/

/-- The answer to what is shown of a session. -/
def View.respond (id : String) (session : Session) : View → Response
  | .all => .ofResult ((session.snapshot id).map .obj)
  | .state => .ofValue session.store.saved.toValue
  | .packages => .ofValue (.list (session.catalog.packages.values.map (·.toValue)))
  | .parameters =>
    .ofValue (.obj [
      ("definitions", .list (session.catalog.globalParameters.map (·.toValue))),
      ("values", session.store.globals.toValue)])
  | .rows => .ofValue (.obj session.rowFields)
  | .alternatives itemId =>
    match session.alternatives (.str itemId) with
    | .ok products => .ofValue (.list (products.map (·.toValue)))
    | .error fault => .ofSessionFault fault
  | .totals scope key =>
    match session.totals scope key with
    | .ok figures => .ofValue figures.toValue
    | .error fault => .ofSessionFault fault
  | .quote => .ofResult ((session.quote (.float Pricing.defaultTravel)).map (·.toValue))

/-! ## Writing -/

/-- The answer to a successful write that may have added an instance. -/
def Reply.respond (id instanceId : String) (session : Session) : Reply → Response
  | .all => View.all.respond id session
  | .newInstance =>
    .ofResult ((session.snapshot id).map fun fields =>
      .obj (("instance_id", .str instanceId) :: fields))
  | .row itemId => (View.totals Scope.item.name (.str itemId)).respond id session
  | .wages => .ofValue (session.wages.toValue .float)

/-- The id of the instance that a write adds. -/
def instanceIdOf (write : Write) (tag : String) : String :=
  match write with
  | .selectPackage packageId => Session.instanceId packageId tag
  | _ => ""

/-- Writes to an open session. -/
def respondToWrite (ids : Identifiers) (registry : Registry) (now : Float) (id : String)
    (session : Session) (write : Write) (reply : Reply) : Response × Registry :=
  let issued := if session.takesTag write then registry.issued + 1 else registry.issued
  let tag := ids.tag issued
  let (result, next) := session.write tag write
  let response := match result with
    | .ok _ => reply.respond id (instanceIdOf write tag) next
    | .error fault => .ofSessionFault fault
  (response, { registry with issued }.use id next now)

/-! ## Commands -/

/-- Opens a session with the data of the source. -/
def respondToOpen (ids : Identifiers) (source : Source) (bounds : Bounds) (registry : Registry)
    (now : Float) (location : Option String) : Response × Registry :=
  match Session.load source (ofOption .str location) with
  | .error fault => (.ofLoadFault fault, registry)
  | .ok session =>
    let issued := registry.issued + 1
    let id := ids.text issued
    (View.all.respond id session, { registry with issued }.add id session now bounds)

/-- Does something with a session, if it is open. -/
def respondToAction (ids : Identifiers) (registry : Registry) (now : Float) (id : String)
    (action : Action) : Response × Registry :=
  match registry.find? id with
  | none => (.refused 404 ("Session " ++ id ++ " not found"), registry)
  | some session =>
    match action with
    | .show view => (view.respond id session, registry.use id session now)
    | .write write reply => respondToWrite ids registry now id session write reply
    | .close => (.ofValue (.obj [("deleted", .str id)]), registry.close id)

def Refusal.respond : Refusal → Response
  | .unknownAddress => .refused 404 "Not Found"
  | .methodNotAllowed => .refused 405 "Method Not Allowed"
  | .invalidBody => .refused 422 "invalid request"

/-- The answer to a command, and the registry after it. What pages about the service show is no part of
it. -/
def respondToCommand (ids : Identifiers) (source : Source) (bounds : Bounds) (registry : Registry)
    (now : Float) (command : Except Refusal Command) : Response × Registry :=
  match command with
  | .error refusal => (refusal.respond, registry)
  | .ok .health => (.ofValue (.obj [("status", .str "ok")]), registry)
  | .ok .documentation => (.bare 200, registry)
  | .ok (.openSession location) => respondToOpen ids source bounds registry now location
  | .ok (.onSession id action) => respondToAction ids registry now id action

/-- The answer to a request, and the registry after it. -/
def respond (source : Source) (bounds : Bounds) (registry : Registry) (now : Float)
    (request : Request) (ids : Identifiers := .counted) : Response × Registry :=
  let (response, next) := respondToCommand ids source bounds registry now request.command
  (if request.method = some .head then response.withoutBody else response, next)

end WiringQuote.Service
