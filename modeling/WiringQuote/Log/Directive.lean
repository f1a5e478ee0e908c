import WiringQuote.Decimal.Fixed
import WiringQuote.Decimal.Significant
import WiringQuote.Log.Fault
import WiringQuote.Value.Text

/-!
# Directives

A directive of a message writes one argument, by its letter: as text, as a whole number in a base, as a
number with decimal places, or as one character. Flags, a width and a precision say how.
-/

namespace WiringQuote.Log

open Decimal Text

/-- What stands between a percent sign and its letter. -/
structure Directive where
  left : Bool
  plus : Bool
  blank : Bool
  alternate : Bool
  zeros : Bool
  width : Nat
  precision : Option Nat

namespace Directive

def start : Directive := ⟨false, false, false, false, false, 0, none⟩

/-- The directive with one more flag. -/
def flag? (d : Directive) (c : Char) : Option Directive :=
  if c = '-' then some { d with left := true }
  else if c = '+' then some { d with plus := true }
  else if c = ' ' then some { d with blank := true }
  else if c = '#' then some { d with alternate := true }
  else if c = '0' then some { d with zeros := true }
  else none

/-- A width that is given as a number; a negative one is for the left side. -/
def withWidth (d : Directive) (width : Int) : Directive :=
  { d with width := width.natAbs, left := d.left || decide (width < 0) }

/-! ## Layout -/

/-- A text in the width of the directive. -/
def fill (d : Directive) (cs : List Char) : List Char :=
  let blanks := List.replicate (d.width - cs.length) ' '
  if d.left then cs ++ blanks else blanks ++ cs

/-- The sign of a number. -/
def sign (d : Directive) (negative : Bool) : List Char :=
  if negative then ['-'] else if d.plus then ['+'] else if d.blank then [' '] else []

/-- A number in the width of the directive; zeros come behind the sign. -/
def fillNumber (d : Directive) (start digits : List Char) : List Char :=
  if d.zeros && !d.left then
    start ++ List.replicate (d.width - start.length - digits.length) '0' ++ digits
  else d.fill (start ++ digits)

/-- A text, cut to the precision. -/
def text (d : Directive) (s : String) : List Char :=
  d.fill (match d.precision with
    | some n => s.toList.take n
    | none => s.toList)

/-- A whole number in a base. -/
def whole (d : Directive) (base : Nat) (mark : List Char) (n : Int) : List Char :=
  let digits := Nat.toDigits base n.natAbs
  let padded := List.replicate (d.precision.getD 0 - digits.length) '0' ++ digits
  d.fillNumber (d.sign (n < 0) ++ (if d.alternate then mark else [])) padded

/-- The decimal places, or the significant digits, that a directive asks for. -/
def places (d : Directive) : Nat := d.precision.getD 6

/-- The ways of writing a number that need not be whole. -/
inductive Style where
  | fixed
  | scientific
  | general
deriving DecidableEq, Repr

/-- The magnitude of a number. -/
def magnitude (d : Directive) (style : Style) (x : Float) : List Char :=
  if x.isNaN then "nan".toList
  else if !x.isFinite then "inf".toList
  else match style with
    | .fixed =>
      let digits := (fixedMagnitude d.places x).toList
      if d.places = 0 && d.alternate then digits ++ ['.'] else digits
    | .scientific => scientificMagnitude d.places d.alternate (.ofFloat x)
    | .general => generalMagnitude (max 1 d.places) d.alternate (.ofFloat x)

/-- A number that need not be whole. -/
def decimal (d : Directive) (style : Style) (x : Float) : List Char :=
  d.fillNumber (d.sign (signBit x && !x.isNaN)) (d.magnitude style x)

end Directive

/-! ## Arguments -/

/-- The whole number that an argument stands for; digits behind the point are cut off. -/
def wholeArgument (letter : Char) : Value → Except RecordFault Int
  | .bool b => .ok (if b then 1 else 0)
  | .num (.int n) => .ok n
  | .num (.float x) => (truncate x).mapError .arithmetic
  | v => .error (.notReal letter v.kindName)

/-- The whole number that an argument is. -/
def exactArgument? : Value → Option Int
  | .bool b => some (if b then 1 else 0)
  | .num (.int n) => some n
  | _ => none

/-- The whole number that an argument has to be. -/
def exactArgument (letter : Char) (argument : Value) : Except RecordFault Int :=
  match exactArgument? argument with
  | some n => .ok n
  | none => .error (.notWhole letter argument.kindName)

/-- The number that an argument is. -/
def decimalArgument : Value → Except RecordFault Float
  | .bool b => .ok (if b then 1.0 else 0.0)
  | .num n => n.toFloat.mapError .arithmetic
  | v => .error (.notDecimal v.kindName)

/-- The code points end below this one. -/
def codeLimit : Int := 0x110000

/-- The character that an argument is, or that its code stands for. -/
def characterArgument (argument : Value) : Except RecordFault Char :=
  match argument with
  | .str s =>
    match s.toList with
    | [c] => .ok c
    | _ => .error .notCharacter
  | v =>
    match exactArgument? v with
    | none => .error .notCharacter
    | some n => if 0 ≤ n ∧ n < codeLimit then .ok (Char.ofNat n.toNat) else .error .noSuchCharacter

/-- A text in ASCII; other characters are written by their code points. -/
def asciiOnly (s : String) : String :=
  String.ofList (s.toList.flatMap fun c =>
    let code := c.toNat
    if isAscii c then [c]
    else if code < 0x100 then backslash :: 'x' :: hex 2 code
    else if code < 0x10000 then backslash :: 'u' :: hex 4 code
    else backslash :: 'U' :: hex 8 code)

/-- An argument as a letter writes it; `index` is where the letter stands. -/
def writeArgument (d : Directive) (letter : Char) (index : Nat) (argument : Value) :
    Except RecordFault (List Char) :=
  let decimal (style : Directive.Style) := (decimalArgument argument).map (d.decimal style)
  let capitals (cs : List Char) := cs.map Char.toUpper
  if letter = 's' then .ok (d.text argument.text)
  else if letter = 'r' then .ok (d.text argument.shown)
  else if letter = 'a' then .ok (d.text (asciiOnly argument.shown))
  else if letter = 'c' then (characterArgument argument).map fun c => d.fill [c]
  else if letter = 'd' ∨ letter = 'i' ∨ letter = 'u' then
    (wholeArgument letter argument).map (d.whole 10 [])
  else if letter = 'x' then (exactArgument letter argument).map (d.whole 16 ['0', 'x'])
  else if letter = 'X' then
    (exactArgument letter argument).map fun n => capitals (d.whole 16 ['0', 'x'] n)
  else if letter = 'o' then (exactArgument letter argument).map (d.whole 8 ['0', 'o'])
  else if letter = 'f' then decimal .fixed
  else if letter = 'F' then (decimal .fixed).map capitals
  else if letter = 'e' then decimal .scientific
  else if letter = 'E' then (decimal .scientific).map capitals
  else if letter = 'g' then decimal .general
  else if letter = 'G' then (decimal .general).map capitals
  else .error (.unsupportedLetter letter index)

end WiringQuote.Log
