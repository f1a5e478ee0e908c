import WiringQuote.Value.Text

/-!
# Values as operands

Quantities and counts may be given as values. A number takes part in comparisons and in arithmetic, and a
truth value does as one or zero. Any other value is no operand; the fault then names the operation and
the kinds of its two sides.
-/

namespace WiringQuote

open Text

/-- Why a value takes no part in an operation. -/
inductive OperandFault where
  /-- The two kinds have no order. -/
  | unordered (comparison left right : String)
  /-- The operation is not defined for the two kinds. -/
  | unsuited (operation left right : String)
  /-- What has elements is repeated by whole numbers only. -/
  | notRepeatable (kind : String)
deriving DecidableEq, Repr

def OperandFault.message : OperandFault → String
  | .unordered comparison left right =>
    quoted comparison ++ " not supported between instances of " ++ quoted left ++ " and " ++
      quoted right
  | .unsuited operation left right =>
    "unsupported operand type(s) for " ++ operation ++ ": " ++ quoted left ++ " and " ++ quoted right
  | .notRepeatable kind => "can't multiply sequence by non-int of type " ++ quoted kind

namespace Value

/-- The number that takes part in operations. -/
def number? : Value → Option Number
  | .bool b => some (.int (if b then 1 else 0))
  | .num n => some n
  | _ => none

/-- The operand that a value is; `fault` says what is wrong with a value of another kind. -/
def operand (fault : String → OperandFault) (v : Value) : Except OperandFault Number :=
  match v.number? with
  | some n => .ok n
  | none => .error (fault v.kindName)

/-- A value that is compared with a whole number. -/
def bounded (v : Value) : Except OperandFault Number :=
  v.operand fun kind => .unordered "<=" kind "int"

/-- A value that a whole number divides. -/
def dividend (v : Value) : Except OperandFault Number :=
  v.operand fun kind => .unsuited "/" kind "int"

/-- A value that is added to a whole number. -/
def summand (v : Value) : Except OperandFault Number :=
  v.operand fun kind => .unsuited "+" "int" kind

/-- A value that is taken off a binary64 number. -/
def subtrahend (v : Value) : Except OperandFault Number :=
  v.operand fun kind => .unsuited "-" "float" kind

/-- A value that a binary64 number is multiplied by. -/
def factor (v : Value) : Except OperandFault Number :=
  match v with
  | .str _ | .list _ => .error (.notRepeatable "float")
  | v => v.operand fun kind => .unsuited "*" "float" kind

end Value

end WiringQuote
