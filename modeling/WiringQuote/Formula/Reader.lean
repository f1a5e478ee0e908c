import WiringQuote.Formula.Basic
import WiringQuote.Json.Reader

/-!
# Reading formulas

A stored formula is an object, a list of objects, or a text that writes one of them. An object whose
`type` is `group_ref` is one reference. In any other object each field is an entry of its own: the
key `floor` sets a least result, a key with a table is a lookup, and any other key names the
parameters of a product, separated by `*`. What is not understood contributes no entry.

Numbers in a formula are finite; texts may write them with a decimal comma. Two faults are reported: a
whole number beyond the range of binary64, and a text whose lists and objects are too many inside each
other.
-/

namespace WiringQuote.Formula

open Decimal Text

/-- The finite number that a value is or writes; truth values are no numbers here. -/
def finite? : Value → Except Fault (Option Float)
  | .num n => do
    let x ← n.toFloat
    return if x.isFinite then some x else none
  | .str s => .ok ((readFloat? (commaToPoint (trim s))).filter (·.isFinite))
  | _ => .ok none

/-- The numeric fields of a lookup table. -/
def readTable : List (String × Value) → Except Fault (List (String × Float))
  | [] => .ok []
  | (key, value) :: rest => do
    let delta ← finite? value
    let table ← readTable rest
    return match delta with
      | some x => (key, x) :: table
      | none => table

/-- The parameter names in a key, blank ones left out. -/
def paramNames (key : String) : List String :=
  ((pieces '*' key).map trim).filter (!·.isEmpty)

/-- The entry of one field, if it makes one. -/
def readField (key : String) (value : Value) : Except Fault (Option Entry) :=
  if (trim key).isEmpty then .ok none
  else if key = "floor" then do
    return (← finite? value).map .floor
  else match value with
    | .obj fields => do
      return some (.lookup (trim key) (← readTable fields))
    | _ => do
      match ← finite? value, paramNames key with
      | some coefficient, name :: names => return some (.product (name :: names) coefficient)
      | _, _ => return none

/-- The entries of the fields of an object, in their order. -/
def readFields : List (String × Value) → Except Fault Formula
  | [] => .ok []
  | (key, value) :: rest => do
    let entry ← readField key value
    let entries ← readFields rest
    return entry.toList ++ entries

/-- The reference that an object of that type makes, if it is well formed. -/
def readReference (fields : List (String × Value)) : Except Fault Formula := do
  let factor ← finite? ((OrderedMap.lookup "factor" fields).getD (.float 1.0))
  match OrderedMap.lookup "group_id" fields, factor with
  | some (.str group), some x => return if group.isEmpty then [] else [.reference group x]
  | _, _ => return []

/-- The object is marked as a reference. -/
def isReference (fields : List (String × Value)) : Bool :=
  match OrderedMap.lookup "type" fields with
  | some (.str kind) => kind == "group_ref"
  | _ => false

def readObject (fields : List (String × Value)) : Except Fault Formula :=
  if isReference fields then readReference fields else readFields fields

/-- The entries of the objects in a list, in order. -/
def readObjects : List Value → Except Fault Formula
  | [] => .ok []
  | .obj fields :: rest => do
    let entries ← readObject fields
    return entries ++ (← readObjects rest)
  | _ :: rest => readObjects rest

/-- An object or a list of objects. -/
def readStructure : Value → Except Fault Formula
  | .obj fields => readObject fields
  | .list items => readObjects items
  | _ => .ok []

/-- Why a stored formula is not read. -/
inductive ReadFault where
  | arithmetic (fault : Fault)
  | tooDeep (container : Json.Container)

def ReadFault.message : ReadFault → String
  | .arithmetic fault => fault.message
  | .tooDeep container => (Json.Fault.tooDeep container).message

/-- A stored formula of any form. A text that writes no value is a formula without entries; one may not
have more than so many lists and objects open at once. -/
def read (depth : Nat) : Value → Except ReadFault Formula
  | .str s =>
    match Json.parse depth s with
    | .ok v => (readStructure v).mapError .arithmetic
    | .error .malformed => .ok []
    | .error (.tooDeep container) => .error (.tooDeep container)
  | v => (readStructure v).mapError .arithmetic

end WiringQuote.Formula
