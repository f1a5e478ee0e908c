import WiringQuote.Decimal.Places
import WiringQuote.Decimal.Text

/-!
# Numbers with fixed places

A number written with a given count of decimal places. The exact value is rounded to nearest, an
exact half to the even neighbour, and the sign stays also on a result of zero.
-/

namespace WiringQuote.Decimal

/-- The magnitude of a finite number with so many digits behind the point. -/
def fixedMagnitude (places : Nat) (x : Float) : String :=
  let units := (Binary.ofFloat x).units places
  let whole := natText (units / Nat.pow 10 places)
  if places = 0 then whole else whole ++ "." ++ padded places (units % Nat.pow 10 places)

def fixedText (places : Nat) (x : Float) : String :=
  if x.isNaN then "nan"
  else
    let magnitude := if x.isFinite then fixedMagnitude places x else "inf"
    if signBit x then "-" ++ magnitude else magnitude

example : fixedText 2 2.675 = "2.67" := by decide +kernel
example : fixedText 3 (-0.0001) = "-0.000" := by decide +kernel

end WiringQuote.Decimal
