import WiringQuote.Value.Text

/-!
# Writing the data format

One line per value, a blank after each comma and colon, in ASCII: every other character is written
by its 16-bit code in four hexadecimal digits, a character beyond the first 65536 by two of them.
Numbers that are not finite are written by the words that the reader accepts for them.
-/

namespace WiringQuote.Json

open WiringQuote.Text WiringQuote.Decimal

/-- A code below 65536 as an escape. -/
def unitEscape (unit : Nat) : List Char := backslash :: 'u' :: hex 4 unit

def escapeChar (c : Char) : List Char :=
  let code := c.toNat
  if c = doubleQuote ∨ c = backslash then [backslash, c]
  else if code = 0x0A then [backslash, 'n']
  else if code = 0x0D then [backslash, 'r']
  else if code = 0x09 then [backslash, 't']
  else if code = 0x0C then [backslash, 'f']
  else if code = 0x08 then [backslash, 'b']
  else if 0x20 ≤ code ∧ code < 0x7F then [c]
  else if code < 0x10000 then unitEscape code
  else
    let offset := code - 0x10000
    unitEscape (0xD800 + offset / 0x400) ++ unitEscape (0xDC00 + offset % 0x400)

/-- A text between double quotes. -/
def quotedText (s : String) : String :=
  String.ofList (doubleQuote :: s.toList.flatMap escapeChar ++ [doubleQuote])

def numberText : Number → String
  | .int n => intText n
  | .float x =>
    if x.isNaN then "NaN"
    else if x.isFinite then floatText x
    else if x < 0 then "-Infinity"
    else "Infinity"

mutual

def render : Value → String
  | .null => "null"
  | .bool true => "true"
  | .bool false => "false"
  | .num n => numberText n
  | .str s => quotedText s
  | .list items => "[" ++ ", ".intercalate (renderItems items) ++ "]"
  | .obj fields => "\x7b" ++ ", ".intercalate (renderFields fields) ++ "\x7d"

def renderItems : List Value → List String
  | [] => []
  | item :: rest => render item :: renderItems rest

def renderFields : List (String × Value) → List String
  | [] => []
  | (key, value) :: rest => (quotedText key ++ ": " ++ render value) :: renderFields rest

end

end WiringQuote.Json
