import WiringQuote.Decimal.Numeral

/-!
# Numerals in rows

Rows may write numbers as texts in ASCII, with white space around them. Underscores are taken out
wherever they stand, unless one begins or ends the text or two stand together. A whole number may be
written with zeros in front, which may have underscores among them, and with a fraction of zeros.
-/

namespace WiringQuote.RowNumeral

open Decimal Text

/-- The text without its underscores, if there are any and all of them stand apart within it. -/
def withoutUnderscores? (cs : List Char) : Option (List Char) :=
  let parts := splitChars '_' cs
  if parts.length < 2 || parts.any (·.isEmpty) then none else some parts.flatten

/-! ## Whole numbers -/

/-- The text behind the zeros in front and the underscores among them. One zero stays before a point,
and the last character of all stays; text that does not go on with a digit or a minus sign is none. -/
def behindZeros? (last : Char) : List Char → Option (List Char)
  | [] => some [last]
  | c :: rest =>
    if c = '0' ∨ c = '_' then behindZeros? c rest
    else if c.isDigit ∨ c = '-' then some (c :: rest)
    else if c = '.' then some (last :: c :: rest)
    else none

/-- The text without zeros in front. -/
def withoutLeadingZeros? : List Char → Option (List Char)
  | [] => none
  | c :: rest =>
    if c = '0' then behindZeros? c rest
    else if c.isDigit ∨ c = '-' then some (c :: rest)
    else none

/-- The text before a point that only zeros follow, or the whole text. -/
def withoutZeroFraction (cs : List Char) : List Char :=
  match cs.dropWhile (· != '.') with
  | '.' :: zero :: zeros =>
    if (zero :: zeros).all (· == '0') then cs.takeWhile (· != '.') else cs
  | _ => cs

/-- Digits in ASCII, the first of them no zero unless it is the only one. -/
def isPlain (digits : List Char) : Bool :=
  !digits.isEmpty && digits.all Char.isDigit && (digits.head? != some '0' || digits.length == 1)

/-- The whole number of plain digits behind an optional minus sign. The characters are limited. -/
def readPlain? (cs : List Char) : Option Int :=
  let negative := cs.head? == some '-'
  let digits := if negative then cs.drop 1 else cs
  if !isPlain digits || digitLimit < cs.length then none
  else
    let n : Int := ofDigits (digits.map fun c => c.toNat - 48)
    some (if negative then -n else n)

/-- The plain digits that a text behind its sign stands for. -/
def plainDigits? (cs : List Char) : Option (List Char) := do
  let digits := withoutZeroFraction (← withoutLeadingZeros? cs)
  return (withoutUnderscores? digits).getD digits

/-- The whole number that a text writes. -/
def int? (s : String) : Option Int :=
  match trimClass isWhiteSpace s.toList with
  | '-' :: rest => (plainDigits? rest).bind fun digits => readPlain? ('-' :: digits)
  | '+' :: '-' :: _ => none
  | '+' :: rest => (plainDigits? rest).bind readPlain?
  | cs => (plainDigits? cs).bind readPlain?

example : int? "+007" = some 7 := by decide +kernel
example : int? "1_0.00" = some 10 := by decide +kernel
example : int? "0_-9" = some (-9) := by decide +kernel
example : int? "0-09" = none := by decide +kernel
example : int? "1." = none := by decide +kernel

/-! ## Binary64 -/

/-- The number that a text in ASCII without underscores writes. -/
def readPlainFloat? (cs : List Char) : Option Float :=
  if cs.all isAscii && !cs.contains '_' then readSigned? cs else none

/-- The number that a text writes. Only a text without white space around it may hold underscores. -/
def float? (s : String) : Option Float :=
  (readPlainFloat? (trimClass isWhiteSpace s.toList)).orElse fun _ =>
    (withoutUnderscores? s.toList).bind readPlainFloat?

end WiringQuote.RowNumeral
