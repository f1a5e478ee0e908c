import WiringQuote.Decimal.Places
import WiringQuote.Role
import WiringQuote.Value.Text

/-!
# What a user may set

Prices, hours and wages are finite and not negative, markups lie between zero and four hundred
percent, all rounded to cents; quantities are whole and at least one. Texts may write a number with
a decimal comma.
-/

namespace WiringQuote

open Decimal Text

/-- Why a value that a user sets is refused. -/
inductive OverrideFault where
  | notNumber (what : String) (value : Value)
  | notFinite (what : String)
  | negative (what : String)
  | markupRange
  | notWhole
  | unknownRole (name : Value)
  | notAlternative (productId : Value) (group : Option String)
  | alreadyPresent (instanceId productId itemId : String)
  /-- A whole number beyond the range of binary64; no refusal of the value's form. -/
  | arithmetic (fault : Fault)

namespace Override

def leastMarkup : Float := 0.0

def largestMarkup : Float := 400.0

end Override

def OverrideFault.message : OverrideFault → String
  | .notNumber what value => what ++ " must be a number, got " ++ value.shown
  | .notFinite what => what ++ " must be finite"
  | .negative what => what ++ " must not be negative"
  | .markupRange =>
    "Markup must be between " ++ floatText Override.leastMarkup ++ " and " ++
      floatText Override.largestMarkup ++ " %"
  | .notWhole => "Quantity must be a whole number of at least 1"
  | .unknownRole name =>
    "Unknown role " ++ name.shown ++ "; expected one of " ++ shownTexts (Role.all.map Role.name)
  | .notAlternative productId group =>
    "Product " ++ productId.text ++ " is not an available alternative in group " ++
      (Value.ofOption .str group).text
  | .alreadyPresent instanceId productId itemId =>
    instanceId ++ " already contains " ++ productId ++ " as " ++ itemId ++
      "; change its quantity instead"
  | .arithmetic fault => fault.message

namespace Override

/-- The number that a value is or writes. -/
def written? : Value → Except Fault (Option Float)
  | .num n => n.toFloat.map some
  | .str s => .ok (readFloat? (commaToPoint (trim s)))
  | _ => .ok none

/-- The finite number that a value is or writes. -/
def number (what : String) (value : Value) : Except OverrideFault Float :=
  match written? value with
  | .error fault => .error (.arithmetic fault)
  | .ok none => .error (.notNumber what value)
  | .ok (some x) => if x.isFinite then .ok x else .error (.notFinite what)

/-- A number that is not negative, to cents. -/
def amount (what : String) (value : Value) : Except OverrideFault Float := do
  let x ← number what value
  if x < 0.0 then throw (.negative what)
  return roundCents x

def price (value : Value) : Except OverrideFault Float := amount "Purchase price" value

def hours (value : Value) : Except OverrideFault Float := amount "Hours" value

def wage (value : Value) : Except OverrideFault Float := amount "Wage" value

def markup (value : Value) : Except OverrideFault Float := do
  let x ← number "Markup" value
  if leastMarkup ≤ x && x ≤ largestMarkup then return roundCents x
  else throw .markupRange

def quantity (value : Value) : Except OverrideFault Int := do
  let x ← number "Quantity" value
  if x < 1.0 || !isWhole x then throw .notWhole
  return wholePart x

/-- The role with a name. -/
def role (name : Value) : Except OverrideFault Role :=
  match name.text?.bind Role.ofName? with
  | some role => .ok role
  | none => .error (.unknownRole name)

/-- A value that takes back what was set. -/
def isBlank : Value → Bool
  | .null => true
  | .str s => s.isEmpty
  | _ => false

end Override

end WiringQuote
