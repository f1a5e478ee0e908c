/-!
# Binary magnitudes

A finite binary64 number is a sign and a magnitude `mantissa * 2 ^ exponent`. Everything
in this library that must be exact (the digits of a number, rounding to cents, whole
quantities) is computed on that magnitude with unbounded integers, never on floats.

`roundDiv` is the one rounding rule: to the nearest integer, an exact half to the even
neighbour.
-/

namespace WiringQuote.Decimal

/-! ## Rounded quotients -/

/-- The quotient rounded to the nearest integer, an exact half to the even neighbour. A half is
first rounded up; the correction takes an odd result back down. -/
def roundDiv (num den : Nat) : Nat :=
  let up := (2 * num + den) / (2 * den)
  if (2 * num + den) % (2 * den) = 0 ∧ up % 2 = 1 then up - 1 else up

/-- The rounded quotient is within half a unit of the exact one. -/
theorem roundDiv_near {num den : Nat} (positive : 0 < den) :
    2 * (roundDiv num den * den) ≤ 2 * num + den ∧
      2 * num ≤ 2 * (roundDiv num den * den) + den := by
  have parts := Nat.div_add_mod (2 * num + den) (2 * den)
  have small := Nat.mod_lt (2 * num + den) (show 0 < 2 * den by omega)
  simp only [roundDiv]
  generalize (2 * num + den) % (2 * den) = r at *
  generalize (2 * num + den) / (2 * den) = up at *
  have product : 2 * den * up = 2 * (up * den) := by rw [Nat.mul_assoc, Nat.mul_comm den]
  split
  · rename_i half
    obtain ⟨below, rfl⟩ : ∃ k, up = k + 1 := ⟨up - 1, by omega⟩
    simp only [Nat.add_sub_cancel, Nat.add_mul, Nat.one_mul] at *
    omega
  · omega

/-- An exact half goes to an even integer. -/
theorem roundDiv_half {num den : Nat} (half : (2 * num + den) % (2 * den) = 0) :
    roundDiv num den % 2 = 0 := by
  simp only [roundDiv, half, true_and]
  split <;> omega

/-! ## Magnitudes -/

/-- The magnitude `mantissa * 2 ^ exponent` of a finite number. -/
structure Binary where
  mantissa : Nat
  exponent : Int
  /-- The next smaller number is only half as far away as the next larger one. -/
  narrowBelow : Bool
deriving DecidableEq, Repr

/-- The magnitude of a finite number. Infinities and NaN have none and are told apart first. -/
def Binary.ofFloat (x : Float) : Binary :=
  let bits : Nat := x.toBits.toNat
  let field : Nat := bits / Nat.pow 2 52 % Nat.pow 2 11
  let fraction : Nat := bits % Nat.pow 2 52
  if field = 0 then ⟨fraction, -1074, false⟩
  else ⟨Nat.pow 2 52 + fraction, (field : Int) - 1075, decide (fraction = 0 ∧ 1 < field)⟩

/-- The sign bit, which minus zero has as well. -/
def signBit (x : Float) : Bool :=
  decide (x.toBits.toNat / Nat.pow 2 63 = 1)

namespace Binary

/-- The numerator of the magnitude over `denominator`. -/
def numerator (b : Binary) : Nat := b.mantissa * Nat.pow 2 b.exponent.toNat

/-- A power of two. -/
def denominator (b : Binary) : Nat := Nat.pow 2 (-b.exponent).toNat

/-- The largest integer that is at most the magnitude. -/
def floor (b : Binary) : Nat := b.numerator / b.denominator

/-- The least integer that is at least the magnitude. -/
def ceil (b : Binary) : Nat := (b.numerator + b.denominator - 1) / b.denominator

/-- The magnitude has no fractional part. -/
def isWhole (b : Binary) : Bool := decide (b.numerator % b.denominator = 0)

end Binary

/-- The number is finite and has no fractional part. -/
def isWhole (x : Float) : Bool := x.isFinite && (Binary.ofFloat x).isWhole

end WiringQuote.Decimal
