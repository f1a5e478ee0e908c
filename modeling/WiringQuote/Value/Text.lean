import WiringQuote.Value.Basic
import WiringQuote.Text.Quoted

/-!
# Values in messages

`Value.shown` writes a value so that its kind can be seen: texts are quoted, lists and objects are
bracketed. `Value.text` is the same, but a text stands for itself.

A whole number is written with all its digits. Writing one of more than `Decimal.digitLimit` digits
would be refused, but no such number comes up: the readers of stored data, of requests and of numerals
refuse it (`Json.readNumber`, `Value.int?`, `Decimal.readInt`), and what is computed are units, which are
rounded from binary64 numbers of at most 309 digits and added up.
-/

namespace WiringQuote

open Decimal Text

def Number.text : Number → String
  | .int n => intText n
  | .float x => floatText x

namespace Value

mutual

/-- A value with its texts quoted. Its whole numbers were read, so they are within the digit limit. -/
def shown : Value → String
  | .null => "None"
  | .bool true => "True"
  | .bool false => "False"
  | .num n => n.text
  | .str s => quoted s
  | .list items => "[" ++ ", ".intercalate (shownItems items) ++ "]"
  | .obj fields => "\x7b" ++ ", ".intercalate (shownFields fields) ++ "\x7d"

def shownItems : List Value → List String
  | [] => []
  | item :: rest => item.shown :: shownItems rest

def shownFields : List (String × Value) → List String
  | [] => []
  | (key, value) :: rest => (quoted key ++ ": " ++ value.shown) :: shownFields rest

end

/-- A value as text; a text stands for itself. As for `shown`, whole numbers are within the digit
limit. -/
def text : Value → String
  | .str s => s
  | v => v.shown

end Value

/-- A list of texts as messages show it. -/
def shownTexts (texts : List String) : String :=
  "[" ++ ", ".intercalate (texts.map quoted) ++ "]"

end WiringQuote
