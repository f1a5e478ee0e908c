import WiringQuote.Export.Session
import WiringQuote.Session.Source

/-!
# Responses

A request is answered with a status and a value, perhaps with a status only, or the service breaks off. It breaks off where a
number is beyond what can be computed or written: an answer holds finite numbers only.
-/

namespace WiringQuote

open Decimal

namespace Value

mutual

/-- All numbers in the value are finite. -/
def isFinite : Value → Bool
  | .num (.float x) => x.isFinite
  | .list items => areFinite items
  | .obj fields => areFiniteFields fields
  | _ => true

def areFinite : List Value → Bool
  | [] => true
  | item :: rest => item.isFinite && areFinite rest

def areFiniteFields : List (String × Value) → Bool
  | [] => true
  | (_, value) :: rest => value.isFinite && areFiniteFields rest

end

end Value

namespace Service

inductive Response where
  | answered (status : Nat) (body : Value)
  /-- An answer without a body. -/
  | bare (status : Nat)
  | brokenOff

namespace Response

/-- The answer to what was done. -/
def ofValue (body : Value) : Response :=
  if body.isFinite then .answered 200 body else .brokenOff

/-- The answer to what was not done, and why. -/
def refused (status : Nat) (detail : String) : Response :=
  .answered status (.obj [("detail", .str detail)])

/-- The answer to a request that asks for no body. -/
def withoutBody : Response → Response
  | .answered status _ => .bare status
  | response => response

/-- The answer of a computation that may go beyond all bounds. -/
def ofResult : Except Fault Value → Response
  | .ok body => ofValue body
  | .error _ => .brokenOff

/-- An undefined number is reported, an infinite one is not. -/
def ofFault : Fault → Response
  | .undefined => refused 422 Fault.undefined.message
  | _ => .brokenOff

def ofSessionFault (fault : SessionFault) : Response :=
  match fault with
  | .unknownInstance _ | .unknownItem _ => refused 404 ("Not found: " ++ fault.message)
  | .unknownPackage _ => refused 404 fault.message
  | .arithmetic fault => ofFault fault
  | .unusableKey _ => .brokenOff
  | _ => refused 422 fault.message

def ofLoadFault (fault : LoadFault) : Response :=
  match fault with
  | .noCatalog _ | .catalog (.incomplete _ _) => refused 503 fault.message
  | .noAnswer _ | .unusableKey _ | .catalog (.formula (.tooDeep _)) => .brokenOff
  | .catalog (.formula (.arithmetic fault)) => ofFault fault
  | .arithmetic fault => ofFault fault

end Response

end Service

end WiringQuote
