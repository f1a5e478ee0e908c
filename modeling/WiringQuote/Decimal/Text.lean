import WiringQuote.Decimal.Shortest

/-!
# Numbers as text

The fewest digits that read back, positionally from `10 ^ -4` to below `10 ^ 16`, otherwise with
a signed exponent of at least two digits. A number always shows that it is no whole-number
count: `5.0`, not `5`.
-/

namespace WiringQuote.Decimal

/-- The decimal digits of a natural number. -/
def natText (n : Nat) : String := String.ofList (Nat.toDigits 10 n)

def intText (n : Int) : String :=
  if n < 0 then "-" ++ natText n.natAbs else natText n.natAbs

/-- At least `width` digits, zeros in front. -/
def padded (width n : Nat) : String :=
  let digits := Nat.toDigits 10 n
  String.ofList (List.replicate (width - digits.length) '0' ++ digits)

/-- An exponent of ten with its sign, in at least two digits. -/
def exponentText (e : Int) : String :=
  (if e < 0 then "e-" else "e+") ++ padded 2 e.natAbs

namespace Digits

/-- The exponent of the leading digit. -/
def leading (d : Digits) : Int := d.exponent + (Nat.toDigits 10 d.coefficient).length - 1

/-- Digits with the point behind, inside or in front of them. -/
def positional (d : Digits) : String :=
  let digits := Nat.toDigits 10 d.coefficient
  if 0 ≤ d.exponent then
    String.ofList (digits ++ List.replicate d.exponent.toNat '0') ++ ".0"
  else
    let places := (-d.exponent).toNat
    let filled := List.replicate (places + 1 - digits.length) '0' ++ digits
    let whole := filled.length - places
    String.ofList (filled.take whole) ++ "." ++ String.ofList (filled.drop whole)

/-- One digit before the point, and the exponent of that digit. -/
def scientific (d : Digits) : String :=
  let mantissa := match Nat.toDigits 10 d.coefficient with
    | [] => ""
    | [digit] => String.ofList [digit]
    | digit :: rest => String.ofList (digit :: '.' :: rest)
  mantissa ++ exponentText d.leading

def text (d : Digits) : String :=
  if -4 ≤ d.leading ∧ d.leading < 16 then d.positional else d.scientific

end Digits

/-- A number as it is written everywhere in this library's answers and messages. -/
def floatText (x : Float) : String :=
  if x.isNaN then "nan"
  else
    let magnitude :=
      if !x.isFinite then "inf"
      else if x == 0 then "0.0"
      else (Binary.ofFloat x).shortest.text
    if signBit x then "-" ++ magnitude else magnitude

example : floatText 0.1 = "0.1" := by decide +kernel
example : floatText 1e16 = "1e+16" := by decide +kernel
example : floatText 1.5e-7 = "1.5e-07" := by decide +kernel
example : floatText (-0.0) = "-0.0" := by decide +kernel
example : floatText 2.98023223876953125e-8 = "2.9802322387695312e-08" := by decide +kernel

end WiringQuote.Decimal
