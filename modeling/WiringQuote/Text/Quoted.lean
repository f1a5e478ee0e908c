import WiringQuote.Decimal.Text
import WiringQuote.Text.Printable

/-!
# Quoted text

A message quotes a text between apostrophes, or between double quotes when it holds an apostrophe
and no double quote. The quote in use and the backslash are escaped, tab, line feed and carriage
return are written by letter, and every other unprintable character by its code point in two, four
or eight hexadecimal digits.
-/

namespace WiringQuote.Text

/-- Lower-case hexadecimal digits, at least `width` of them. -/
def hex (width n : Nat) : List Char :=
  let digits := Nat.toDigits 16 n
  List.replicate (width - digits.length) '0' ++ digits

/-- U+0027. -/
def apostrophe : Char := Char.ofNat 0x27

/-- U+0022. -/
def doubleQuote : Char := Char.ofNat 0x22

/-- U+005C. -/
def backslash : Char := Char.ofNat 0x5C

/-- A character as it stands between two quotes. -/
def escapeChar (quote c : Char) : List Char :=
  let code := c.toNat
  if c = quote ∨ c = backslash then [backslash, c]
  else if code = 0x09 then [backslash, 't']
  else if code = 0x0A then [backslash, 'n']
  else if code = 0x0D then [backslash, 'r']
  else if isPrintable c then [c]
  else if code < 0x100 then backslash :: 'x' :: hex 2 code
  else if code < 0x10000 then backslash :: 'u' :: hex 4 code
  else backslash :: 'U' :: hex 8 code

/-- The quote that a text gets. -/
def quoteFor (cs : List Char) : Char :=
  if cs.contains apostrophe && !cs.contains doubleQuote then doubleQuote else apostrophe

def quoted (s : String) : String :=
  let cs := s.toList
  let quote := quoteFor cs
  String.ofList (quote :: cs.flatMap (escapeChar quote) ++ [quote])

end WiringQuote.Text
