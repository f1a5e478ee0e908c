import WiringQuote.Decimal.Significant
import WiringQuote.Value.Field

/-!
# Cells

A cell of a table holds nothing, a whole number of 64 bits, a binary64 number or a text. Columns of texts
write numbers as texts, with up to fifteen significant digits. Columns of numbers read a text that writes a
decimal number in ASCII and keep any other text as it is; a number without a fraction is kept as a whole
one where 64 bits hold it.
-/

namespace WiringQuote.Cell

open Decimal Text

/-! ## Numbers in columns of numbers -/

/-- The whole number is one of 64 bits. -/
def fits (n : Int) : Bool :=
  decide (-9223372036854775808 ≤ n ∧ n ≤ 9223372036854775807)

/-- A binary64 number without a fraction is kept as a whole one, unless it lies at the end of the range or
beyond it. -/
def ofFloat (x : Float) : Number :=
  if Decimal.isWhole x && x.abs < 9223372036854775808.0 then .int (wholePart x) else .float x

/-- A character of the white space around numerals in cells. -/
def isSpace (c : Char) : Bool := c == ' ' || (9 ≤ c.toNat && c.toNat ≤ 13)

/-- A character of a numeral in cells. -/
def isNumeralChar (c : Char) : Bool :=
  c.isDigit || c == '+' || c == '-' || c == '.' || c == 'e' || c == 'E'

/-- The number that a text writes. A whole number of more than 64 bits is read as a binary64 one. -/
def numberOf? (s : String) : Option Number :=
  let numeral := trimClass isSpace s.toList
  if !numeral.all isNumeralChar then none
  else match (readDigits numeral).toOption.filter fits with
    | some n => some (.int n)
    | none => (readSigned? numeral).map ofFloat

example : numberOf? " 7.0\n" = some (.int 7) := by decide +kernel
example : numberOf? "7.5" = some (.float 7.5) := by decide +kernel
example : numberOf? "0-1" = none := by decide +kernel

/-- A number that is written as a data format, in the form in which it is read again. -/
def ofWritten : Number → Number
  | .int n => if fits n then .int n else .float (Float.ofInt n)
  | .float x => ofFloat x

/-! ## Numbers in columns of texts -/

/-- The most significant digits of a number in a text. -/
def textDigits : Nat := 15

/-- A magnitude above zero to fifteen digits, a half rounded up. -/
def significant (b : Binary) : Digits :=
  let e := b.decimalScale - textDigits
  let unit := b.denominator * Nat.pow 10 e.toNat
  let coefficient := (2 * b.numerator * Nat.pow 10 (-e).toNat + unit) / (2 * unit)
  if coefficient = Nat.pow 10 textDigits then ⟨coefficient / 10, e + 1⟩ else ⟨coefficient, e⟩

/-- The digits of a magnitude, at least one of them behind a point. -/
def digitsText (d : Digits) : String :=
  let digits := withoutZeros (Nat.toDigits 10 d.coefficient)
  if -4 ≤ d.leading ∧ d.leading < textDigits then
    let dropped := (Nat.toDigits 10 d.coefficient).length - digits.length
    Digits.positional ⟨d.coefficient / Nat.pow 10 dropped, d.exponent + dropped⟩
  else
    let fraction := digits.drop 1
    String.ofList (digits.take 1 ++ '.' :: (if fraction.isEmpty then ['0'] else fraction)) ++
      exponentText d.leading

/-- A binary64 number as text; there is one zero. -/
def floatText (x : Float) : String :=
  let magnitude :=
    if !x.isFinite then "Inf"
    else if x == 0 then "0.0"
    else digitsText (significant (.ofFloat x))
  if x < 0 then "-" ++ magnitude else magnitude

example : floatText 1e16 = "1.0e+16" := by decide +kernel
example : floatText 123456789.12345679 = "123456789.123457" := by decide +kernel
example : floatText (-10000000000000.25) = "-10000000000000.3" := by decide +kernel

end WiringQuote.Cell
