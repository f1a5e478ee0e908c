import WiringQuote.Decimal.Binary

/-!
# The fewest digits that read back

A number is written with as few significant digits as still identify it: the decimal must lie
among the reals that round to the number. Of two such decimals of one length the nearer is
taken, of two equally near ones the even.

The search goes through the grids of 1, 2, … 17 significant digits and tests the two grid
points around the number. All comparisons are between naturals.
-/

namespace WiringQuote.Decimal

/-- The decimal `coefficient * 10 ^ exponent`. -/
structure Digits where
  coefficient : Nat
  exponent : Int
deriving DecidableEq, Repr

namespace Digits

/-- How `d` compares with `n * 2 ^ k`. -/
def compareBinary (d : Digits) (n : Nat) (k : Int) : Ordering :=
  compare (d.coefficient * Nat.pow 10 d.exponent.toNat * Nat.pow 2 (-k).toNat)
    (n * Nat.pow 2 k.toNat * Nat.pow 10 (-d.exponent).toNat)

/-- The same decimal without trailing zeros in the coefficient. -/
def trimmed (d : Digits) : Digits :=
  if _h : 0 < d.coefficient ∧ d.coefficient % 10 = 0 then
    trimmed ⟨d.coefficient / 10, d.exponent + 1⟩
  else d
termination_by d.coefficient
decreasing_by omega

end Digits

namespace Binary

/-- The decimal lies among the reals that round to the magnitude: between the midpoints to the
neighbours, the midpoints included when the mantissa is even. -/
def readsBack (b : Binary) (d : Digits) : Bool :=
  let lower := if b.narrowBelow then 4 * b.mantissa - 1 else 4 * b.mantissa - 2
  let upper := 4 * b.mantissa + 2
  let even := b.mantissa % 2 == 0
  let atLower := d.compareBinary lower (b.exponent - 2)
  let atUpper := d.compareBinary upper (b.exponent - 2)
  (atLower == .gt || (even && atLower == .eq)) && (atUpper == .lt || (even && atUpper == .eq))

/-- The least `k` with the magnitude below `10 ^ k`. The bit length gives it up to three. -/
def decimalScale (b : Binary) : Int :=
  let bits : Int := b.mantissa.log2 + b.exponent
  let guess := Int.fdiv (bits * 30103) 100000
  let fits (k : Int) := Digits.compareBinary ⟨1, k⟩ b.mantissa b.exponent == .gt
  (([guess, guess + 1, guess + 2].find? fits).getD (guess + 3))

/-- The best decimal of the grid `10 ^ e` that reads back, if one of the two grid points around the
magnitude does. -/
def onGrid (b : Binary) (e : Int) : Option Digits :=
  let num := b.numerator * Nat.pow 10 (-e).toNat
  let den := b.denominator * Nat.pow 10 e.toNat
  let below : Digits := ⟨num / den, e⟩
  let above : Digits := ⟨num / den + 1, e⟩
  match b.readsBack below, b.readsBack above with
  | true, false => some below
  | false, true => some above
  | false, false => none
  | true, true => some ⟨roundDiv num den, e⟩

/-- The fewest digits that read back to a magnitude above zero. Seventeen always do; the exact value
stands behind them so that no guess is ever written. -/
def shortest (b : Binary) : Digits :=
  let scale := b.decimalScale
  let found := (List.range 17).findSome? fun (n : Nat) => b.onGrid (scale - (n + 1))
  let places := (-b.exponent).toNat
  (found.getD ⟨b.numerator * Nat.pow 5 places, -(places : Int)⟩).trimmed

end Binary

example : (Binary.ofFloat 0.1).shortest = ⟨1, -1⟩ := by decide +kernel
example : (Binary.ofFloat 1e23).shortest = ⟨1, 23⟩ := by decide +kernel

end WiringQuote.Decimal
