import WiringQuote.Decimal.Binary

/-!
# Rounding to decimal places

The exact value of a number is rounded to the nearest multiple of `10 ^ -places`, an exact half
to the even neighbour, and that decimal is read back. The sign stays, also on a result of zero;
infinities and NaN are kept.
-/

namespace WiringQuote.Decimal

/-- The magnitude in units of `10 ^ -places`, rounded. -/
def Binary.units (b : Binary) (places : Nat) : Nat :=
  roundDiv (b.numerator * Nat.pow 10 places) b.denominator

def roundPlaces (places : Nat) (x : Float) : Float :=
  if !x.isFinite then x
  else
    let magnitude := Float.ofScientific ((Binary.ofFloat x).units places) true places
    if signBit x then -magnitude else magnitude

/-- Amounts of money and hours are kept to cents. -/
def roundCents (x : Float) : Float := roundPlaces 2 x

example : (roundCents 2.675).toBits = (2.67 : Float).toBits := by decide +kernel
example : (roundCents 0.125).toBits = (0.12 : Float).toBits := by decide +kernel

end WiringQuote.Decimal
