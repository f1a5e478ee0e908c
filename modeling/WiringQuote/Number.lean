import WiringQuote.Decimal.Whole

/-!
# Numbers

A number keeps the kind in which it was written: a whole number is exact and unbounded, any other one is
binary64. Sums and products of whole numbers stay whole; a binary64 operand makes the result binary64, and
a whole number beyond its range is then a fault. Comparisons are exact across the kinds.
-/

namespace WiringQuote

open Decimal

/-- A number as it was written. -/
inductive Number where
  | int (n : Int)
  | float (x : Float)
deriving DecidableEq

namespace Number

instance : Inhabited Number := ⟨.int 0⟩

/-- The nearest binary64 number. -/
def toFloat : Number → Except Fault Float
  | .int n => ofInt n
  | .float x => .ok x

def isWhole : Number → Bool
  | .int _ => true
  | .float x => Decimal.isWhole x

def isZero : Number → Bool
  | .int n => decide (n = 0)
  | .float x => x == 0

def isPositive : Number → Bool
  | .int n => decide (0 < n)
  | .float x => decide (0 < x)

/-! ## Arithmetic -/

def add : Number → Number → Except Fault Number
  | .int m, .int n => .ok (.int (m + n))
  | .float x, b => do return .float (x + (← b.toFloat))
  | .int m, .float y => do return .float ((← ofInt m) + y)

/-- So many times the number. -/
def times (k : Int) : Number → Except Fault Number
  | .int n => .ok (.int (n * k))
  | .float x => do return .float (x * (← ofInt k))

/-- The sum from left to right, from zero. -/
def sum (numbers : List Number) : Except Fault Number := numbers.foldlM add (.int 0)

/-- The number of groups of `den` that hold so many pieces. -/
def ceilDiv (den : Nat) : Number → Except Fault Int
  | .int n => ceilQuotient n den
  | .float x => ceil (x / Float.ofNat den)

/-! ## Comparison -/

/-- The number is at most a whole one. -/
def atMost (limit : Int) : Number → Bool
  | .int n => decide (n ≤ limit)
  | .float x =>
    match ceil x with
    | .ok n => decide (n ≤ limit)
    | .error _ => decide (x < 0)

/-- The number is at most a binary64 one. -/
def atMostFloat (limit : Float) : Number → Bool
  | .float x => decide (x ≤ limit)
  | .int n =>
    match floor limit with
    | .ok m => decide (n ≤ m)
    | .error _ => decide (0 < limit)

example : (Number.int 9007199254740993).atMostFloat 9007199254740992.0 = false := by decide +kernel
example : (Number.float 2.5).atMost 2 = false := by decide +kernel

end Number

end WiringQuote
