import WiringQuote.Catalog.Row
import WiringQuote.Decimal.Places
import WiringQuote.Table.Cell
import WiringQuote.Value.Operand

/-!
# Tables

A table has columns, the first of which is its key. A row that is stored holds a value in every
column: the given one, or the default of the column if there is none, brought into the form that the
column has. Columns of fixed decimal places hold rounded numbers. A table whose rows are numbered gives a
row without a number the next one. A row with a field that is no column is refused. Rows are read in order
of their keys.
-/

namespace WiringQuote

open Decimal Text

/-- What a column holds. -/
inductive ColumnKind where
  | text
  | whole
  | flag
  /-- Numbers with fixed decimal places. -/
  | amount (places : Nat)
  /-- Values of any form. -/
  | data
deriving DecidableEq, Repr

/-- A column and the value that it holds where none is given. -/
structure Column where
  name : String
  kind : ColumnKind
  default : Value

/-- Why rows are not stored. -/
inductive StoreFault where
  | unknownColumn (name entity : String)
  /-- A whole number of more than 64 bits. -/
  | beyondWords

def StoreFault.message : StoreFault → String
  | .unknownColumn name entity =>
    quoted name ++ " is an invalid keyword argument for " ++ entity
  | .beyondWords => "Python int too large to convert to SQLite INTEGER"

namespace ColumnKind

/-- A number with decimal places as it is stored. There is one zero, and an undefined number is no
value. -/
def storedAmount (places : Nat) (x : Float) : Value :=
  if x.isNaN then .null else .float (roundPlaces places (plainZero x))

/-- A number as a cell takes it, in the form that `shown` gives it. -/
def storedNumber (shown : Number → Value) : Number → Except StoreFault Value
  | .int n => if Cell.fits n then .ok (shown (.int n)) else .error .beyondWords
  | .float x => .ok (if x.isNaN then .null else shown (.float x))

def textOf : Number → Value
  | .int n => .str (intText n)
  | .float x => .str (Cell.floatText x)

def wholeOf : Number → Value
  | .int n => .int n
  | .float x => .num (Cell.ofFloat x)

/-- A given value in the form of the column, as far as it can be brought into it. -/
def stored (kind : ColumnKind) (value : Value) : Except StoreFault Value :=
  match kind, value, value.number? with
  | .text, _, some n => storedNumber textOf n
  | .whole, _, some n => storedNumber wholeOf n
  | .whole, .str s, _ => .ok (((Cell.numberOf? s).map Value.num).getD value)
  | .flag, value, _ => .ok ((value.bool?.map Value.bool).getD value)
  | .amount _, .null, _ => .ok .null
  | .amount places, value, _ =>
    match value.asFloat with
    | .ok x => .ok (storedAmount places x)
    | .error _ => .ok value
  | .data, .num n, _ => .ok (.num (Cell.ofWritten n))
  | _, value, _ => .ok value

end ColumnKind

namespace Column

def text (name : String) : Column := ⟨name, .text, .null⟩

def whole (name : String) : Column := ⟨name, .whole, .null⟩

def flag (name : String) : Column := ⟨name, .flag, .bool false⟩

def data (name : String) : Column := ⟨name, .data, .null⟩

/-- A column of numbers with fixed decimal places; zero by default. -/
def amount (places : Nat) (name : String) : Column := ⟨name, .amount places, .int 0⟩

/-- What the column holds for a given value. -/
def stored (column : Column) (given : Option Value) : Except StoreFault Value :=
  column.kind.stored (match given with
    | none | some .null => column.default
    | some value => value)

end Column

structure Table where
  name : String
  /-- What one row is called. -/
  entity : String
  key : Column
  /-- Rows are numbered by their key. -/
  isNumbered : Bool
  others : List Column

namespace Table

def columns (table : Table) : List Column := table.key :: table.others

/-- A given row as it is stored; `number` is its number if it has none. -/
def storedRow (table : Table) (number : Int) (given : Value) : Except StoreFault Value := do
  let numbered (column : Column) : Option Value :=
    match given.get? column.name with
    | none | some .null =>
      if table.isNumbered && column.name == table.key.name then some (.int number) else none
    | some value => some value
  let cells ← table.columns.mapM fun column => do
    return (column.name, ← column.stored (numbered column))
  return .obj cells

def keyOf (table : Table) (row : Value) : Value := (row.get? table.key.name).getD .null

/-- The greater of the last number and that of a row. -/
def lastNumber (table : Table) (last : Option Int) (row : Value) : Option Int :=
  match table.keyOf row, last with
  | .num (.int n), some m => some (max n m)
  | .num (.int n), none => some n
  | _, last => last

/-- Stores rows one after the other behind the rows up to a number. -/
def storedRows (table : Table) : Option Int → List Value → Except StoreFault (List Value)
  | _, [] => .ok []
  | last, given :: rest => do
    let row ← table.storedRow (last.getD 0 + 1) given
    return row :: (← table.storedRows (table.lastNumber last row) rest)

/-- Numbers in numeric order, texts in the order of their code points. -/
def keyLe : Value → Value → Bool
  | .num (.int a), .num (.int b) => a ≤ b
  | .str a, .str b => a ≤ b
  | _, _ => true

/-- The rows of a table in the order in which they were stored. -/
def stored (table : Table) (tables : Value) : Except StoreFault (List Value) :=
  table.storedRows none (tables.rowsAt table.name)

/-- Rows in order of their keys. -/
def sorted (table : Table) (rows : List Value) : List Value :=
  rows.mergeSort fun a b => keyLe (table.keyOf a) (table.keyOf b)

/-- The first field of the rows that the table has no column for. -/
def unknownColumn? (table : Table) (rows : List Value) : Option String :=
  rows.findSome? fun row =>
    (row.fields?.getD []).findSome? fun field =>
      if (table.columns.map (·.name)).contains field.1 then none else some field.1

end Table

end WiringQuote
