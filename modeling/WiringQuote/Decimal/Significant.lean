import WiringQuote.Decimal.Places
import WiringQuote.Decimal.Text

/-!
# Numbers with a count of significant digits

A magnitude rounded to a count of significant digits, an exact half to the even neighbour. Its digits
are laid out with an exponent behind the first of them, or positionally where the exponent is small.
-/

namespace WiringQuote.Decimal

/-- The magnitude above zero rounded to so many significant digits. A magnitude that is rounded up to
the next power of ten has one more digit at its end, a zero, which is taken off. -/
def Binary.significant (b : Binary) (count : Nat) : Digits :=
  let e := b.decimalScale - count
  let coefficient := roundDiv (b.numerator * Nat.pow 10 (-e).toNat) (b.denominator * Nat.pow 10 e.toNat)
  if coefficient = Nat.pow 10 count then ⟨coefficient / 10, e + 1⟩ else ⟨coefficient, e⟩

/-- The significant digits of a magnitude, and the exponent of the first one. -/
def Binary.leadingDigits (b : Binary) (count : Nat) : List Char × Int :=
  if b.mantissa = 0 then (List.replicate count '0', 0)
  else
    let rounded := b.significant count
    (Nat.toDigits 10 rounded.coefficient, rounded.leading)

/-- Digits before and behind a point; without digits behind it the point is left out unless it is
wanted. -/
def joinAtPoint (point : Bool) (whole fraction : List Char) : List Char :=
  if fraction.isEmpty && !point then whole else whole ++ '.' :: fraction

/-- Digits without the zeros at their end. -/
def withoutZeros (digits : List Char) : List Char :=
  (digits.reverse.dropWhile (· == '0')).reverse

/-- One digit before the point, so many behind it, and the exponent. -/
def scientificMagnitude (places : Nat) (point : Bool) (b : Binary) : List Char :=
  let (digits, e) := b.leadingDigits (places + 1)
  joinAtPoint point (digits.take 1) (digits.drop 1) ++ (exponentText e).toList

/-- So many significant digits, positionally from `10 ^ -4` to below `10 ^ count`. Zeros at the end of
the fraction are shown only in full form. -/
def generalMagnitude (count : Nat) (full : Bool) (b : Binary) : List Char :=
  let (digits, e) := b.leadingDigits count
  let shown (fraction : List Char) := if full then fraction else withoutZeros fraction
  if e < -4 ∨ (count : Int) ≤ e then
    joinAtPoint full (digits.take 1) (shown (digits.drop 1)) ++ (exponentText e).toList
  else if e < 0 then
    joinAtPoint full ['0'] (shown (List.replicate (-e - 1).toNat '0' ++ digits))
  else joinAtPoint full (digits.take (e.toNat + 1)) (shown (digits.drop (e.toNat + 1)))

example : String.ofList (scientificMagnitude 0 false (.ofFloat 25.0)) = "2e+01" := by decide +kernel
example : String.ofList (scientificMagnitude 1 false (.ofFloat 9.96)) = "1.0e+01" := by decide +kernel
example : String.ofList (generalMagnitude 6 false (.ofFloat 0.0001)) = "0.0001" := by decide +kernel
example : String.ofList (generalMagnitude 6 true (.ofFloat 1e6)) = "1.00000e+06" := by decide +kernel

end WiringQuote.Decimal
