import WiringQuote.Value.Numeral
import WiringQuote.Value.Text

/-!
# Reading the fields of a row

A row is an object whose fields have declared kinds. A kind accepts a value of its own and what
clearly stands for one: a number for a text that writes it, a truth value for zero and one. A field
that is absent takes its default; one that holds an unsuitable value makes the row invalid.

`Value.asFloat` is the conversion for single settings, which reports why it fails.
-/

namespace WiringQuote

open Decimal Text

namespace Value

/-! ## Kinds -/

/-- A number, a truth value as one or zero, or a text that writes a number. -/
def float? : Value → Option Float
  | .bool b => some (if b then 1.0 else 0.0)
  | .num n => n.toFloat.toOption
  | .str s => RowNumeral.float? s
  | _ => none

/-- A whole number, a truth value as one or zero, or a text that writes a whole number, also with a
fraction of zeros. Of numbers with a fraction part only those below `2 ^ 63` in magnitude count. -/
def int? : Value → Option Int
  | .bool b => some (if b then 1 else 0)
  | .num (.int n) => some n
  | .num (.float x) =>
    if Decimal.isWhole x && x.abs < 9223372036854775808.0 then (floor x).toOption else none
  | .str s => RowNumeral.int? s
  | _ => none

/-- A truth value, zero or one, or one of the usual words in any case. -/
def bool? : Value → Option Bool
  | .bool b => some b
  | .num (.int n) => if n = 0 then some false else if n = 1 then some true else none
  | .num (.float x) => if x == 0 then some false else if x == 1 then some true else none
  | .str s =>
    let word := s.map Char.toLower
    if ["1", "t", "true", "y", "yes", "on"].contains word then some true
    else if ["0", "f", "false", "n", "no", "off"].contains word then some false
    else none
  | _ => none

def list? : Value → Option (List Value)
  | .list items => some items
  | _ => none

def texts? (v : Value) : Option (List String) := v.list?.bind fun items => items.mapM text?

def fields? : Value → Option (List (String × Value))
  | .obj fields => some fields
  | _ => none

/-- An object as a map. -/
def map? (v : Value) : Option (OrderedMap String Value) := v.fields?.map OrderedMap.ofList

/-- An object all of whose values are of one kind, as a map. -/
def mapOf? {α : Type} (kind : Value → Option α) (v : Value) : Option (OrderedMap String α) := do
  let fields ← v.fields?
  let entries ← fields.mapM fun (key, value) => (kind value).map fun a => (key, a)
  return OrderedMap.ofList entries

/-- A kind that also accepts the absence of a value. -/
def nullable {α : Type} (kind : Value → Option α) : Value → Option (Option α)
  | .null => some none
  | v => (kind v).map some

/-! ## Fields -/

/-- A field that must be there. -/
def required {α : Type} (row : Value) (key : String) (kind : Value → Option α) : Option α :=
  (row.get? key).bind kind

/-- A field with a default. -/
def defaulted {α : Type} (row : Value) (key : String) (kind : Value → Option α) (default : α) :
    Option α :=
  match row.get? key with
  | some v => kind v
  | none => some default

/-- A field that may be absent or empty. -/
def optional {α : Type} (row : Value) (key : String) (kind : Value → Option α) :
    Option (Option α) :=
  row.defaulted key (nullable kind) none

/-! ## Listed rows -/

/-- The rows that are listed under a key. -/
def rowsAt (data : Value) (key : String) : List Value :=
  match data.get? key with
  | some (.list rows) => rows
  | _ => []

/-- A value of a kind that lists nothing. -/
structure NotListed where
  kind : String

def NotListed.message (fault : NotListed) : String :=
  quoted fault.kind ++ " object is not iterable"

/-- What a value lists. -/
def listed (v : Value) : Except NotListed (List Value) :=
  match v.elements? with
  | some items => .ok items
  | none => .error ⟨v.kindName⟩

/-- What the value of a key lists; nothing if there is no value. -/
def listedAt (data : Value) (key : String) : Except NotListed (List Value) :=
  match data.get? key with
  | some v => v.listed
  | none => .ok []

/-- What the value of a key lists; nothing if there is no value or an empty one. -/
def presentAt (data : Value) (key : String) : Except NotListed (List Value) :=
  match (data.get? key).filter (·.isPresent) with
  | some v => v.listed
  | none => .ok []

/-! ## Single settings -/

/-- Why a value is no number. -/
inductive NotFloat where
  | unreadable (text : String)
  | kind (name : String)
  | arithmetic (fault : Fault)

def NotFloat.message : NotFloat → String
  | .unreadable text => "could not convert string to float: " ++ quoted text
  | .kind name =>
    "float() argument must be a string or a real number, not " ++ quoted name
  | .arithmetic fault => fault.message

/-- The number that a value is or writes. -/
def asFloat : Value → Except NotFloat Float
  | .bool b => .ok (if b then 1.0 else 0.0)
  | .num n => n.toFloat.mapError .arithmetic
  | .str s =>
    match readFloat? s with
    | some x => .ok x
    | none => .error (.unreadable s)
  | v => .error (.kind v.kindName)

end Value

end WiringQuote
