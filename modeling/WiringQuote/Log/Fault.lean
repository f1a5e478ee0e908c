import WiringQuote.Text.Quoted
import WiringQuote.Decimal.Whole

/-!
# Why a record cannot be written

A message may have directives that do not fit its arguments, a moment may lie outside the calendar, and
an attribute that a record was given may be of no use where it is written.
-/

namespace WiringQuote.Log

open Decimal Text

inductive RecordFault where
  | incompleteDirective
  | incompleteKey
  | unsupportedLetter (letter : Char) (index : Nat)
  | widthTooBig
  | precisionTooBig
  | tooFewArguments
  | tooManyArguments
  /-- A directive names an argument, but the arguments have no names. -/
  | noMapping
  | missingKey (key : String)
  | keyOfList
  | notReal (letter : Char) (kind : String)
  | notWhole (letter : Char) (kind : String)
  | notDecimal (kind : String)
  | notCharacter
  | noSuchCharacter
  /-- An argument that is to give a width or a precision is no whole number. -/
  | notWidth
  | widthOutOfRange
  | precisionOutOfRange
  | undefinedMoment
  /-- The seconds do not fit into 64 bits. -/
  | momentOutOfRange
  /-- The year does not fit into 32 bits. -/
  | momentBeyondYears
  | yearOutOfRange (year : Int)
  | notMoment (kind : String)
  /-- An attribute that is added to a line is no text. -/
  | notText (kind : String)
  /-- An attribute that stands for an error is none. -/
  | notError (kind : String)
  /-- A chosen attribute has no name. -/
  | notName (kind : String)
  | notNames (kind : String)
  | arithmetic (fault : Fault)
deriving DecidableEq, Repr

namespace RecordFault

/-- A letter in a message. Those outside the printable ASCII range are not shown, but the last control
character is. -/
def shownLetter (letter : Char) : Char :=
  if 31 ≤ letter.toNat ∧ letter.toNat ≤ 126 then letter else '?'

def message : RecordFault → String
  | .incompleteDirective => "incomplete format"
  | .incompleteKey => "incomplete format key"
  | .unsupportedLetter letter index =>
    "unsupported format character '" ++ String.ofList [shownLetter letter] ++ "' (0x" ++
      String.ofList (hex 1 letter.toNat) ++ ") at index " ++ natText index
  | .widthTooBig => "width too big"
  | .precisionTooBig => "precision too big"
  | .tooFewArguments => "not enough arguments for format string"
  | .tooManyArguments => "not all arguments converted during string formatting"
  | .noMapping => "format requires a mapping"
  | .missingKey key => key
  | .keyOfList => "list indices must be integers or slices, not str"
  | .notReal letter kind =>
    "%" ++ String.ofList [letter] ++ " format: a real number is required, not " ++ kind
  | .notWhole letter kind =>
    "%" ++ String.ofList [letter] ++ " format: an integer is required, not " ++ kind
  | .notDecimal kind => "must be real number, not " ++ kind
  | .notCharacter => "%c requires int or char"
  | .noSuchCharacter => "%c arg not in range(0x110000)"
  | .notWidth => "* wants int"
  | .widthOutOfRange => "Python int too large to convert to C ssize_t"
  | .precisionOutOfRange => "Python int too large to convert to C int"
  | .undefinedMoment => "Invalid value NaN (not a number)"
  | .momentOutOfRange => "timestamp out of range for platform time_t"
  | .momentBeyondYears => "[Errno 75] Value too large for defined data type"
  | .yearOutOfRange year => "year " ++ intText year ++ " is out of range"
  | .notMoment kind => quoted kind ++ " object cannot be interpreted as an integer"
  | .notText kind => "can only concatenate str (not \"" ++ kind ++ "\") to str"
  | .notError kind => quoted kind ++ " object is not subscriptable"
  | .notName kind => "attribute name must be string, not " ++ quoted kind
  | .notNames kind => quoted kind ++ " object is not iterable"
  | .arithmetic fault => fault.message

end RecordFault

end WiringQuote.Log
