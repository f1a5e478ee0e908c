import WiringQuote.Catalog.Row
import WiringQuote.Text.LowerCase

/-!
# Parameter values

A parameter accepts what can be read as a value of its kind and turns it into the one form in which
it is stored: a truth value, a finite number (a whole one as a whole number), or a text. Texts
may write numbers with a decimal comma and truth values by the usual English and German words.
-/

namespace WiringQuote

open Decimal Text

/-- Why a parameter does not accept a value. -/
inductive ParameterFault where
  | notBoolean (key : String) (value : Value)
  | notNumber (key : String) (value : Value)
  | notFinite (key : String)
  | missing (key : String)
  | notAnOption (key : String) (options : List String) (text : String)
  | notAQualityLevel (levels : List String) (value : Value)
  | unknown (key : String)
  | notGlobal (key : String)
  | notExposed (key : String) (packageId : Value)
  /-- A whole number beyond the range of binary64; no rejection of the value's form. -/
  | arithmetic (fault : Fault)

namespace ParameterFault

def message : ParameterFault → String
  | .notBoolean key value => "Parameter '" ++ key ++ "' expects a boolean, got " ++ value.shown
  | .notNumber key value => "Parameter '" ++ key ++ "' expects a number, got " ++ value.shown
  | .notFinite key => "Parameter '" ++ key ++ "' must be finite"
  | .missing key => "Parameter '" ++ key ++ "' must not be empty"
  | .notAnOption key options text =>
    "Parameter '" ++ key ++ "' must be one of " ++ shownTexts options ++ ", got " ++ quoted text
  | .notAQualityLevel levels value =>
    "Quality level must be one of " ++ shownTexts levels ++ ", got " ++ value.shown
  | .unknown key => "Unknown parameter '" ++ key ++ "'"
  | .notGlobal key => "Parameter '" ++ key ++ "' is not a global parameter"
  | .notExposed key packageId =>
    "Parameter '" ++ key ++ "' is not exposed by package " ++ packageId.text
  | .arithmetic fault => fault.message

end ParameterFault

namespace ParameterDefinition

/-- The words for a truth value. -/
def trueWords : List String := ["true", "1", "ja", "yes", "on", "wahr"]

def falseWords : List String := ["false", "0", "nein", "no", "off", "falsch", ""]

/-- The truth value that a value is or stands for. -/
def boolean? : Value → Option Bool
  | .bool b => some b
  | .num (.int n) => if n = 0 then some false else if n = 1 then some true else none
  | .num (.float x) => if x == 0 then some false else if x == 1 then some true else none
  | .str s =>
    let word := lower (trim s)
    if trueWords.contains word then some true
    else if falseWords.contains word then some false
    else none
  | _ => none

/-- The number that a value is or writes, before it is known to be finite. -/
def number? : Value → Option Number
  | .null | .bool _ => none
  | .num n => some n
  | v => (readFloat? (commaToPoint (trim v.text))).map .float

/-- A finite number in the form in which it is stored. -/
def normalNumber : Number → Number
  | .int n => .int n
  | .float x => if Decimal.isWhole x then .int (wholePart x) else .float x

def coerceNumber (key : String) (value : Value) : Except ParameterFault Value :=
  match number? value with
  | none => .error (.notNumber key value)
  | some n =>
    match n.toFloat with
    | .error fault => .error (.arithmetic fault)
    | .ok x => if x.isFinite then .ok (.num (normalNumber n)) else .error (.notFinite key)

def coerceText (definition : ParameterDefinition) (value : Value) : Except ParameterFault Value :=
  match value with
  | .null => .error (.missing definition.key)
  | v =>
    let text := v.text
    if definition.kind = .select && !definition.options.isEmpty &&
        !definition.options.contains text then
      .error (.notAnOption definition.key definition.options text)
    else .ok (.str text)

/-- The stored form of a value of this parameter. -/
def coerce (definition : ParameterDefinition) (value : Value) : Except ParameterFault Value :=
  match definition.kind with
  | .boolean =>
    match boolean? value with
    | some b => .ok (.bool b)
    | none => .error (.notBoolean definition.key value)
  | .number => coerceNumber definition.key value
  | .select | .text => definition.coerceText value

end ParameterDefinition

end WiringQuote
