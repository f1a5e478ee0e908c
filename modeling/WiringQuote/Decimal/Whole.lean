import WiringQuote.Decimal.Binary

/-!
# Between whole numbers and binary64

Whole numbers are unbounded, binary64 is not. Each conversion says when it is impossible;
where it is possible it rounds to nearest (to binary64) or is exact (from binary64).

`ceilQuotient` is the count of devices that a demand needs. The quotient is first rounded to
the 53 significant bits of binary64 and only then taken up to the next integer, so a remainder
below the last of these bits is not seen.
-/

namespace WiringQuote.Decimal

/-- Why a number cannot be converted. -/
inductive Fault where
  /-- A whole number lies beyond the largest finite number. -/
  | beyondRange
  /-- Infinity is no whole number. -/
  | infinite
  /-- An undefined result is no whole number. -/
  | undefined
  /-- A quotient of whole numbers lies beyond the largest finite number. -/
  | quotientBeyondRange
deriving DecidableEq, Repr

def Fault.message : Fault → String
  | .beyondRange => "int too large to convert to float"
  | .infinite => "cannot convert float infinity to integer"
  | .undefined => "cannot convert float NaN to integer"
  | .quotientBeyondRange => "integer division result too large for a float"

/-- The nearest binary64 number of a whole number, if it is finite. -/
def ofInt (n : Int) : Except Fault Float :=
  let x := Float.ofInt n
  if x.isFinite then .ok x else .error .beyondRange

/-- Refuses what has no integer part. -/
def requireFinite (x : Float) : Except Fault Unit :=
  if x.isNaN then .error .undefined
  else if x.isFinite then .ok ()
  else .error .infinite

/-- The integer part toward zero of a finite number. -/
def wholePart (x : Float) : Int :=
  let n : Int := (Binary.ofFloat x).floor
  if signBit x then -n else n

/-- The integer part toward minus infinity. -/
def floor (x : Float) : Except Fault Int := do
  requireFinite x
  return if signBit x then -((Binary.ofFloat x).ceil : Int) else wholePart x

/-- The integer part toward plus infinity. -/
def ceil (x : Float) : Except Fault Int := do
  requireFinite x
  return if signBit x then wholePart x else (Binary.ofFloat x).ceil

/-- The integer part toward zero. -/
def truncate (x : Float) : Except Fault Int := do
  requireFinite x
  return wholePart x

/-! ## Quotients of whole numbers -/

/-- A positive quotient to 53 significant bits, as `significand * 2 ^ exponent`. -/
structure Quotient where
  significand : Nat
  exponent : Int
deriving DecidableEq, Repr

namespace Quotient

/-- The exponent that leaves 53 bits before the point: with it the quotient is at least `2 ^ 52`
and below `2 ^ 53`. The bit lengths of both sides give it up to one. -/
def scale (num den : Nat) : Int :=
  let guess : Int := (num.log2 : Int) - den.log2 - 53
  let fits := num * Nat.pow 2 (-guess).toNat < den * Nat.pow 2 guess.toNat * Nat.pow 2 53
  if fits then guess else guess + 1

/-- The quotient rounded to 53 significant bits, an exact half to the even neighbour. -/
def rounded (num den : Nat) : Quotient :=
  let e := scale num den
  ⟨roundDiv (num * Nat.pow 2 (-e).toNat) (den * Nat.pow 2 e.toNat), e⟩

def numerator (q : Quotient) : Nat := q.significand * Nat.pow 2 q.exponent.toNat

def denominator (q : Quotient) : Nat := Nat.pow 2 (-q.exponent).toNat

def floor (q : Quotient) : Nat := q.numerator / q.denominator

def ceil (q : Quotient) : Nat := (q.numerator + q.denominator - 1) / q.denominator

/-- The largest finite binary64 number is below `2 ^ 1024`. -/
def inRange (q : Quotient) : Bool := q.numerator < q.denominator * Nat.pow 2 1024

end Quotient

/-- The number of groups of `den` that hold `num` pieces, from the quotient in binary64. -/
def ceilQuotient (num : Int) (den : Nat) : Except Fault Int :=
  let q := Quotient.rounded num.natAbs den
  if num = 0 then .ok 0
  else if !q.inRange then .error .quotientBeyondRange
  else .ok (if num < 0 then -(q.floor : Int) else q.ceil)

example : (ceilQuotient 17 8).toOption = some 3 := by decide +kernel
example : (ceilQuotient (-20) 8).toOption = some (-2) := by decide +kernel
/-- The remainder lies beyond the 53rd bit. -/
example : (ceilQuotient 100000000000000001 8).toOption = some 12500000000000000 := by decide +kernel

end WiringQuote.Decimal
