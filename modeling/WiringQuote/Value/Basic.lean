import WiringQuote.Decimal.Numeral
import WiringQuote.Number
import WiringQuote.OrderedMap

/-!
# Values

Reference data, parameters and saved states arrive as values of a data format: what a row holds is
only known after it has been checked. Where values serve as keys, numbers of all kinds and truth values
are compared by their worth, so that `1`, `1.0` and `true` are one key.
-/

namespace WiringQuote

open Decimal

/-- A value of the data format. Keys of an object are in the order in which they were written. -/
inductive Value where
  | null
  | bool (b : Bool)
  | num (n : Number)
  | str (s : String)
  | list (items : List Value)
  | obj (fields : List (String × Value))
deriving Inhabited

namespace Value

def int (n : Int) : Value := .num (.int n)

def float (x : Float) : Value := .num (.float x)

/-- The value of a key of an object. -/
def get? (v : Value) (key : String) : Option Value :=
  match v with
  | .obj fields => OrderedMap.lookup key fields
  | _ => none

/-- A value that counts as present where a name or an id may be left out: nothing blank, no zero and
nothing empty. -/
def isPresent : Value → Bool
  | .null => false
  | .bool b => b
  | .num (.int n) => decide (n ≠ 0)
  | .num (.float x) => !(x == 0)
  | .str s => !s.isEmpty
  | .list items => !items.isEmpty
  | .obj fields => !fields.isEmpty

def isNull : Value → Bool
  | .null => true
  | _ => false

/-- The text that a value is. -/
def text? : Value → Option String
  | .str s => some s
  | _ => none

/-- The elements of a list, the characters of a text or the keys of an object. -/
def elements? : Value → Option (List Value)
  | .list items => some items
  | .str s => some (s.toList.map fun c => .str (String.ofList [c]))
  | .obj fields => some (fields.map fun field => .str field.1)
  | _ => none

def ofOption {α : Type} (toValue : α → Value) : Option α → Value
  | none => .null
  | some a => toValue a

/-! ## Keys -/

/-- What a value is compared by where it serves as a key. -/
inductive Key where
  | null
  | whole (n : Int)
  /-- A number that is not whole, by its bits. -/
  | fraction (bits : Nat)
  | text (s : String)
  /-- A list or an object, which are no keys. -/
  | none
deriving DecidableEq, Repr

def key : Value → Key
  | .null => .null
  | .bool b => .whole (if b then 1 else 0)
  | .num (.int n) => .whole n
  | .num (.float x) => if Decimal.isWhole x then .whole (wholePart x) else .fraction x.toBits.toNat
  | .str s => .text s
  | .list _ | .obj _ => .none

/-- The value can serve as a key. -/
def isKey (v : Value) : Bool := decide (v.key ≠ .none)

/-- The whole number that a value is equal to. -/
def whole? (v : Value) : Option Int :=
  match v.key with
  | .whole n => some n
  | _ => none

/-- The name of a value's kind in error messages. -/
def kindName : Value → String
  | .null => "NoneType"
  | .bool _ => "bool"
  | .num (.int _) => "int"
  | .num (.float _) => "float"
  | .str _ => "str"
  | .list _ => "list"
  | .obj _ => "dict"

end Value

end WiringQuote
