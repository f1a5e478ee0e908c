import WiringQuote.Formula.Reader
import WiringQuote.Value.Text

/-!
# Evaluating formulas

A lookup compares the text of the parameter's value with the keys of its table; `20` and `20.0` are
one key. A product is zero when one of its parameters is missing or no number. References count
only when the group totals are known.

`quantity` adds the contributions to a base; `multiplier` adds them to one and then takes the largest
floor if the sum lies below it.
-/

namespace WiringQuote.Formula

open Decimal

/-- The text by which a parameter value is looked up: truth values in lower case, numbers without
a fraction part as whole numbers. -/
def lookupKey : Value → String
  | .bool b => if b then "true" else "false"
  | .num (.float x) => if Decimal.isWhole x then intText (wholePart x) else floatText x
  | v => v.text

/-- The value that a product multiplies with: truth values count as one and zero. -/
def factor? : Option Value → Except Fault (Option Float)
  | none => .ok none
  | some (.bool b) => .ok (some (if b then 1.0 else 0.0))
  | some v => finite? v

/-- The product of the factors from left to right; zero as soon as one is missing. -/
def productOf (env : Environment) : List String → Float → Except Fault Float
  | [], acc => .ok acc
  | name :: rest, acc => do
    match ← factor? (env.get? name) with
    | none => return 0.0
    | some x => productOf env rest (acc * x)

/-- The contribution of an entry. -/
def Entry.contribution (entry : Entry) (env : Environment) (totals : Option GroupTotals) :
    Except Fault Float :=
  match entry with
  | .lookup param table =>
    match env.get? param with
    | none | some .null => .ok 0.0
    | some value => .ok ((OrderedMap.lookup (lookupKey value) table).getD 0.0)
  | .product params coefficient => productOf env params coefficient
  | .reference group factor =>
    match totals with
    | none => .ok 0.0
    | some known => .ok (factor * (known.get? group).getD 0.0)
  | .floor _ => .ok 0.0

/-- The entries that add to a quantity: floors never do, references only when totals are known. -/
def Entry.adds (entry : Entry) (totals : Option GroupTotals) : Bool :=
  match entry with
  | .floor _ => false
  | .reference _ _ => totals.isSome
  | _ => true

/-- The base and the contributions, added from left to right. -/
def quantity (base : Float) (formula : Formula) (env : Environment)
    (totals : Option GroupTotals) : Except Fault Float :=
  formula.foldlM (fun sum entry =>
    if entry.adds totals then do return sum + (← entry.contribution env totals)
    else return sum) base

/-- The larger of two numbers; the first unless the second is above it. -/
def larger (x y : Float) : Float := if x < y then y else x

/-- The largest of the floors of a formula. -/
def largestFloor (formula : Formula) : Option Float :=
  formula.foldl (fun largest entry =>
    match entry, largest with
    | .floor minimum, none => some minimum
    | .floor minimum, some x => some (larger x minimum)
    | _, _ => largest) none

/-- One and the contributions of lookups and products, but at least the largest floor. -/
def multiplier (formula : Formula) (env : Environment) : Except Fault Float := do
  let sum ← quantity 1.0 formula env none
  return match formula.largestFloor with
    | none => sum
    | some x => larger sum x

end WiringQuote.Formula
