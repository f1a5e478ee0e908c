import WiringQuote.Decimal.Whole
import WiringQuote.LineItem.Basic
import WiringQuote.ProductGroups

/-!
# Protection devices

What the consumers of a configuration require: a 16 A breaker for every eight sockets, a 10 A breaker
for every ten lights, a three-pole breaker for every stove, a residual current device for every six
breakers, and one main switch as soon as there is a breaker.
-/

namespace WiringQuote

open Decimal

/-- The consumers that need a breaker. A double socket counts as two sockets. -/
structure Consumers where
  sockets : Number
  lights : Number
  stoves : Number
deriving DecidableEq

namespace Consumers

def none : Consumers := ⟨.int 0, .int 0, .int 0⟩

/-- Counts the units of one row. -/
def addItem (consumers : Consumers) (item : LineItem) : Except Fault Consumers :=
  if item.isProtection then .ok consumers
  else match item.group with
    | .none => .ok consumers
    | some group =>
      if group = ProductGroups.socketSingle then do
        return { consumers with sockets := ← consumers.sockets.add item.quantity }
      else if group = ProductGroups.socketDouble then do
        return { consumers with sockets := ← consumers.sockets.add (← item.quantity.times 2) }
      else if group = ProductGroups.lightSwitch then do
        return { consumers with lights := ← consumers.lights.add item.quantity }
      else if group = ProductGroups.stove then do
        return { consumers with stoves := ← consumers.stoves.add item.quantity }
      else .ok consumers

def ofItems (items : List LineItem) : Except Fault Consumers := items.foldlM addItem none

end Consumers

namespace Protection

def socketsPerBreaker : Nat := 8

def lightsPerBreaker : Nat := 10

def breakersPerResidualCurrent : Nat := 6

/-- The devices for the breakers of the three kinds, in the order in which they are listed; kinds
without a device are left out. -/
def devicesFor (forSockets forLights : Int) (forStoves : Number) :
    Except Fault (List (String × Number)) := do
  let total ← (Number.int (forSockets + forLights)).add forStoves
  let residual ← total.ceilDiv breakersPerResidualCurrent
  let devices := [(ProductGroups.breakerB16, Number.int forSockets),
    (ProductGroups.breakerB10, .int forLights), (ProductGroups.breakerB16ThreePole, forStoves),
    (ProductGroups.residualCurrent, .int residual),
    (ProductGroups.mainSwitch, .int (if total.isPositive then 1 else 0))]
  return devices.filter fun device => device.2.isPositive

/-- The required quantity of each protection group. -/
def required (consumers : Consumers) : Except Fault (List (String × Number)) := do
  let forSockets ← consumers.sockets.ceilDiv socketsPerBreaker
  let forLights ← consumers.lights.ceilDiv lightsPerBreaker
  devicesFor forSockets forLights consumers.stoves

example : (required ⟨.int 17, .int 11, .int 2⟩).toOption =
    some [("GRP-MCB-B16", .int 3), ("GRP-MCB-B10", .int 2), ("GRP-MCB-B16-3P", .int 2),
      ("GRP-RCD-40A", .int 2), ("GRP-LTS-35A", .int 1)] := by decide +kernel

end Protection

end WiringQuote
