import WiringQuote.Session.Basic
import WiringQuote.Session.Fault

/-!
# The figures of a session

Totals are asked for by scope, and most scopes need a key: the id of a row, of a selected package or
of a package. A key is any value, since it may come from a request; a package id may also be written
as text or with a fraction, which is cut off.
-/

namespace WiringQuote

open Decimal

/-- What totals are asked for. -/
inductive Scope where
  | item
  | category
  | selection
  | package
  | protection
  | everything
deriving DecidableEq, Repr

/-- The totals of a scope. -/
inductive ScopeTotals where
  | row (totals : ItemTotals)
  | categories (totals : OrderedMap String Totals)
  | sum (totals : Totals)
  | grand (totals : GrandTotals)

namespace Scope

def all : List Scope := [.item, .category, .selection, .package, .protection, .everything]

def name : Scope → String
  | .item => "item"
  | .category => "category"
  | .selection => "instance"
  | .package => "package"
  | .protection => "protection"
  | .everything => "global"

def ofName? (s : String) : Option Scope := all.find? fun scope => scope.name == s

end Scope

namespace Session

/-! ## Keys -/

/-- The displayed row with an id. -/
def findRow (session : Session) (key : Value) : Except SessionFault LineItem :=
  match key.text?.bind session.row? with
  | some item => .ok item
  | none => .error (.unknownItem key)

/-- A name under which something is looked up. -/
def lookupName (unknown : SessionFault) (key : Value) : Except SessionFault String :=
  match key with
  | .str name => .ok name
  | .list _ | .obj _ => .error (.unusableKey key.kindName)
  | _ => .error unknown

/-- The id of a selected package. -/
def instanceKey (session : Session) (key : Value) : Except SessionFault String := do
  let id ← lookupName (.unknownInstance key) key
  if session.store.instances.contains id then return id else throw (.unknownInstance key)

/-- The package id that a key is or writes. -/
def packageKey (key : Value) : Except SessionFault Int :=
  match key with
  | .bool b => .ok (if b then 1 else 0)
  | .num (.int n) => .ok n
  | .num (.float x) =>
    match truncate x with
    | .ok n => .ok n
    | .error .undefined => .error (.packageKey key)
    | .error fault => .error (.arithmetic fault)
  | .str s => (readInt s).mapError fun _ => .packageKey key
  | _ => .error (.packageKey key)

/-! ## Figures -/

/-- The totals of a scope. -/
def scopeTotals (session : Session) (key : Value) : Scope → Except SessionFault ScopeTotals
  | .item => do
    let item ← session.findRow key
    return .row (← (session.pricing.itemTotals item).mapError .arithmetic)
  | .category => do
    let id ← session.instanceKey key
    return .categories (← (session.pricing.categoryTotals session.rows id).mapError .arithmetic)
  | .selection => do
    let id ← session.instanceKey key
    return .sum (← (session.pricing.instanceTotals session.rows id).mapError .arithmetic)
  | .package => do
    let id ← packageKey key
    return .sum (← (session.pricing.packageTotals session.rows (.int id)).mapError .arithmetic)
  | .protection =>
    ((session.pricing.protectionTotals session.rows).mapError .arithmetic).map .sum
  | .everything => ((session.pricing.grandTotals session.rows).mapError .arithmetic).map .grand

/-- The totals of the scope with a name. -/
def totals (session : Session) (scope : String) (key : Value) : Except SessionFault ScopeTotals :=
  match Scope.ofName? scope with
  | some scope => session.scopeTotals key scope
  | none => .error (.unknownScope scope)

/-- The grand total of the displayed rows. -/
def grandTotals (session : Session) : Except Fault GrandTotals :=
  session.pricing.grandTotals session.rows

/-- The quote for the displayed rows, without a subsidy. -/
def quote (session : Session) (travelPercent : Number) : Except Fault QuoteSummary :=
  session.pricing.quote session.rows travelPercent (.float 0.0)

/-- The products that can stand in for that of a row. -/
def alternatives (session : Session) (itemId : Value) : Except SessionFault (List Product) := do
  let item ← session.findRow itemId
  return session.catalog.alternatives item.group session.locationName

end Session

end WiringQuote
