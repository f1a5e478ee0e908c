import WiringQuote.Decimal.Binary
import WiringQuote.Text.DecimalDigit

/-!
# Numerals

The texts that are accepted as numbers, white space around them aside: an optional sign, digits of any
script with single underscores between them, and for binary64 a decimal point with digits on at
least one side, a decimal exponent, and the words for infinity and for an undefined value in any
case. A decimal is read to the nearest binary64 number.

Whole numbers of more than `digitLimit` digits are not read.
-/

namespace WiringQuote.Decimal

open WiringQuote.Text

/-! ## Digits -/

/-- The digits that follow a digit, and the text behind them. An underscore counts only between two
digits. -/
def moreDigits : List Char → List Nat × List Char
  | [] => ([], [])
  | '_' :: c :: rest =>
    match digitValue? c with
    | some d => let (digits, behind) := moreDigits rest; (d :: digits, behind)
    | none => ([], '_' :: c :: rest)
  | c :: rest =>
    match digitValue? c with
    | some d => let (digits, behind) := moreDigits rest; (d :: digits, behind)
    | none => ([], c :: rest)

/-- The digits at the start of a text, and the text behind them. -/
def takeDigits : List Char → List Nat × List Char
  | [] => ([], [])
  | c :: rest =>
    match digitValue? c with
    | some d => let (digits, behind) := moreDigits rest; (d :: digits, behind)
    | none => ([], c :: rest)

/-- A minus sign, and the text behind an optional sign. -/
def takeSign : List Char → Bool × List Char
  | '-' :: rest => (true, rest)
  | '+' :: rest => (false, rest)
  | cs => (false, cs)

/-! ## Whole numbers -/

/-- The most digits a whole number may be written with. -/
def digitLimit : Nat := 4300

/-- Why a text is no whole number. -/
inductive NumeralFault where
  /-- It is not written as a whole number. -/
  | malformed
  /-- It has more digits than are read. -/
  | tooLong (digits : Nat)
deriving DecidableEq, Repr

/-- The whole number that a text without white space around it writes. Too many digits are reported
before what follows them is looked at, unless that is an underscore. -/
def readDigits (cs : List Char) : Except NumeralFault Int :=
  let (negative, unsigned) := takeSign cs
  let (digits, behind) := takeDigits unsigned
  if digits.isEmpty || behind.head? == some '_' then .error .malformed
  else if digitLimit < digits.length then .error (.tooLong digits.length)
  else if !behind.isEmpty then .error .malformed
  else
    let n : Int := ofDigits digits
    .ok (if negative then -n else n)

/-- The whole number that a text writes. -/
def readInt (s : String) : Except NumeralFault Int := readDigits (trimClass isWhiteSpace s.toList)

/-! ## Binary64 -/

/-- The nearest binary64 number to `coefficient * 10 ^ exponent`. Beyond 400 decimal places on either
side of the point the result is zero or infinite, which spares the huge power. -/
def nearest (coefficient : Nat) (exponent : Int) : Float :=
  let magnitude : Int := (coefficient.log2 * 30103 / 100000 : Nat) + exponent
  if coefficient = 0 ∨ magnitude < -400 then 0.0
  else if 400 < magnitude then Float.ofScientific 1 false 400
  else Float.ofScientific coefficient (decide (exponent < 0)) exponent.natAbs

/-- The exponent behind a mantissa: none, or a mark, an optional sign and digits. -/
def readExponent : List Char → Option Int
  | [] => some 0
  | mark :: rest =>
    if mark = 'e' ∨ mark = 'E' then
      let (negative, unsigned) := takeSign rest
      match takeDigits unsigned with
      | (digit :: digits, []) =>
        let n : Int := ofDigits (digit :: digits)
        some (if negative then -n else n)
      | _ => none
    else none

/-- The fraction digits behind an optional point, and the text behind them. -/
def takeFraction : List Char → List Nat × List Char
  | '.' :: rest => takeDigits rest
  | cs => ([], cs)

/-- An unsigned decimal. -/
def readDecimal (cs : List Char) : Option Float :=
  let (whole, behindWhole) := takeDigits cs
  let (fraction, behind) := takeFraction behindWhole
  if whole.isEmpty && fraction.isEmpty then none
  else (readExponent behind).map fun e =>
    nearest (ofDigits (whole ++ fraction)) (e - fraction.length)

/-- The words for what is no finite number. -/
def readWord (cs : List Char) : Option Float :=
  let word := String.ofList (cs.map Char.toLower)
  if word == "inf" || word == "infinity" then some (1.0 / 0.0)
  else if word == "nan" then some (0.0 / 0.0)
  else none

/-- The binary64 number that a text without white space around it writes. -/
def readSigned? (cs : List Char) : Option Float :=
  let (negative, unsigned) := takeSign cs
  let magnitude := (readDecimal unsigned).orElse fun _ => readWord unsigned
  magnitude.map fun x => if negative then -x else x

/-- The binary64 number that a text writes. -/
def readFloat? (s : String) : Option Float := readSigned? (trimClass isWhiteSpace s.toList)

end WiringQuote.Decimal
