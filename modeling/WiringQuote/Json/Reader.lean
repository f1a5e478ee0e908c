import WiringQuote.Value.Basic
import WiringQuote.Text.Quoted

/-!
# Reading the data format

The grammar of JSON, with `NaN`, `Infinity` and `-Infinity` as further numbers. A repeated key keeps
its first place and gets its last value. Whole numbers are exact up to the digit limit of numerals,
a longer one is refused; numbers with a fraction or an exponent are read to the nearest binary64.

Lists and objects may stand inside each other as far as the calls that are open already leave room for
it, which is given to the reader as a depth. One that opens beyond it is reported as such, whatever
follows it; every other fault leaves a text without a value.
-/

namespace WiringQuote.Json

open WiringQuote.Text WiringQuote.Decimal

/-! ## Blanks and words -/

def isSpace (c : Char) : Bool := c = ' ' || c = '\t' || c = '\n' || c = '\r'

def skipSpace (cs : List Char) : List Char := cs.dropWhile isSpace

/-- The text behind a word that it starts with. -/
def dropWord : List Char → List Char → Option (List Char)
  | [], cs => some cs
  | _ :: _, [] => none
  | w :: word, c :: cs => if w = c then dropWord word cs else none

/-- The words of the format and what they stand for. -/
def words : List (String × Value) :=
  [("null", .null), ("true", .bool true), ("false", .bool false), ("NaN", .float (0.0 / 0.0)),
    ("Infinity", .float (1.0 / 0.0)), ("-Infinity", .float (-1.0 / 0.0))]

def readWord (cs : List Char) : Option (Value × List Char) :=
  words.findSome? fun (word, value) => (dropWord word.toList cs).map fun rest => (value, rest)

/-! ## Texts -/

def hexDigit? (c : Char) : Option Nat :=
  let code := c.toNat
  if 48 ≤ code ∧ code ≤ 57 then some (code - 48)
  else if 97 ≤ code ∧ code ≤ 102 then some (code - 87)
  else if 65 ≤ code ∧ code ≤ 70 then some (code - 55)
  else none

/-- The code of a character that is escaped by letter. -/
def escaped? (c : Char) : Option Nat :=
  if c = doubleQuote ∨ c = backslash ∨ c = '/' then some c.toNat
  else if c = 'b' then some 0x08
  else if c = 'f' then some 0x0C
  else if c = 'n' then some 0x0A
  else if c = 'r' then some 0x0D
  else if c = 't' then some 0x09
  else none

/-- The codes of a text up to its closing quote, and what follows the quote. Escaped codes may be
halves of a surrogate pair. -/
def readCodes : List Char → Option (List Nat × List Char)
  | [] => none
  | c :: rest =>
    if c = doubleQuote then some ([], rest)
    else if c = backslash then
      match rest with
      | 'u' :: h1 :: h2 :: h3 :: h4 :: more =>
        match hexDigit? h1, hexDigit? h2, hexDigit? h3, hexDigit? h4 with
        | some a, some b, some c, some d =>
          (readCodes more).map fun (codes, behind) =>
            ((((a * 16 + b) * 16 + c) * 16 + d) :: codes, behind)
        | _, _, _, _ => none
      | letter :: more =>
        match escaped? letter with
        | some code => (readCodes more).map fun (codes, behind) => (code :: codes, behind)
        | none => none
      | [] => none
    else if c.toNat < 0x20 then none
    else (readCodes rest).map fun (codes, behind) => (c.toNat :: codes, behind)

/-- The characters of a text. Two halves of a pair make one character; a half that stands alone is no
character and becomes U+FFFD. -/
def joinPairs : List Nat → List Char
  | [] => []
  | high :: low :: rest =>
    if 0xD800 ≤ high ∧ high < 0xDC00 ∧ 0xDC00 ≤ low ∧ low < 0xE000 then
      Char.ofNat (0x10000 + (high - 0xD800) * 0x400 + (low - 0xDC00)) :: joinPairs rest
    else
      (if 0xD800 ≤ high ∧ high < 0xE000 then Char.ofNat 0xFFFD else Char.ofNat high)
        :: joinPairs (low :: rest)
  | [code] => [if 0xD800 ≤ code ∧ code < 0xE000 then Char.ofNat 0xFFFD else Char.ofNat code]

/-- A text behind its opening quote. -/
def readText (cs : List Char) : Option (String × List Char) :=
  (readCodes cs).map fun (codes, behind) => (String.ofList (joinPairs codes), behind)

/-! ## Numbers -/

/-- Decimal digits at the start of a text. -/
def takeDigits (cs : List Char) : List Nat × List Char :=
  ((cs.takeWhile Char.isDigit).map fun c => c.toNat - 48, cs.dropWhile Char.isDigit)

/-- The digits before the point: zero stands alone. -/
def readWhole (cs : List Char) : Option (List Nat × List Char) :=
  match takeDigits cs with
  | ([], _) => none
  | (0 :: _ :: _, _) => none
  | (digits, behind) => some (digits, behind)

/-- The digits behind a point, if there is one. -/
def readFraction : List Char → Option (Option (List Nat) × List Char)
  | '.' :: rest =>
    match takeDigits rest with
    | ([], _) => none
    | (digits, behind) => some (some digits, behind)
  | cs => some (none, cs)

/-- The exponent behind its mark, if there is one. -/
def readExponent : List Char → Option (Option Int × List Char)
  | [] => some (none, [])
  | mark :: rest =>
    if mark = 'e' ∨ mark = 'E' then
      let (negative, unsigned) := takeSign rest
      match takeDigits unsigned with
      | ([], _) => none
      | (digits, behind) =>
        let n : Int := ofDigits digits
        some (some (if negative then -n else n), behind)
    else some (none, mark :: rest)

def readNumber (cs : List Char) : Option (Number × List Char) := do
  let (negative, unsigned) := match cs with
    | '-' :: rest => (true, rest)
    | _ => (false, cs)
  let (whole, behindWhole) ← readWhole unsigned
  let (fraction, behindFraction) ← readFraction behindWhole
  let (exponent, behind) ← readExponent behindFraction
  match fraction, exponent with
  | none, none =>
    if digitLimit < whole.length then none
    else
      let n : Int := ofDigits whole
      some (.int (if negative then -n else n), behind)
  | _, _ =>
    let digits := fraction.getD []
    let x := nearest (ofDigits (whole ++ digits)) (exponent.getD 0 - digits.length)
    some (.float (if negative then -x else x), behind)

/-! ## Values -/

/-- The fields of an object as they are kept: each key once, with its last value. -/
def keepLast (fields : List (String × Value)) : List (String × Value) :=
  (OrderedMap.ofList fields).entries

/-- What holds further values. -/
inductive Container where
  | list
  | object
deriving DecidableEq, Repr

/-- Why a text has no value. -/
inductive Fault where
  | malformed
  /-- A list or an object opens inside too many others. -/
  | tooDeep (container : Container)
deriving DecidableEq, Repr

def Fault.message : Fault → String
  | .malformed => "malformed text"
  | .tooDeep .list => "maximum recursion depth exceeded while decoding a JSON array from a unicode string"
  | .tooDeep .object =>
    "maximum recursion depth exceeded while decoding a JSON object from a unicode string"

/-- How many lists and objects may be open at once for a reader that is called by few others: of a
thousand nested calls some ten are its callers. -/
def usualDepth : Nat := 990

/-- How many more may open inside one that opens when there is room for so many. -/
def roomInside (container : Container) : Nat → Except Fault Nat
  | 0 => .error (.tooDeep container)
  | room + 1 => .ok room

def orMalformed {α : Type} : Option α → Except Fault α
  | some found => .ok found
  | none => .error .malformed

mutual

/-- A value at the start of a text, blanks in front of it skipped, with room for so many open lists and
objects. -/
def readValue : Nat → Nat → List Char → Except Fault (Value × List Char)
  | 0, _, _ => .error .malformed
  | fuel + 1, room, cs =>
    match skipSpace cs with
    | [] => .error .malformed
    | c :: rest =>
      if c = doubleQuote then
        orMalformed ((readText rest).map fun (s, behind) => (.str s, behind))
      else if c = '[' then do
        let inside ← roomInside .list room
        match skipSpace rest with
        | ']' :: behind => return (.list [], behind)
        | _ =>
          let (items, behind) ← readItems fuel inside rest
          return (.list items, behind)
      else if c = Char.ofNat 0x7B then do
        let inside ← roomInside .object room
        match skipSpace rest with
        | [] => throw .malformed
        | first :: behind =>
          if first = Char.ofNat 0x7D then return (.obj [], behind)
          else
            let (fields, behind) ← readFields fuel inside rest
            return (.obj (keepLast fields), behind)
      else
        orMalformed ((readWord (c :: rest)).orElse fun _ =>
          (readNumber (c :: rest)).map fun (n, behind) => (.num n, behind))

/-- The items of a list up to its closing bracket. -/
def readItems : Nat → Nat → List Char → Except Fault (List Value × List Char)
  | 0, _, _ => .error .malformed
  | fuel + 1, room, cs => do
    let (item, behind) ← readValue fuel room cs
    match skipSpace behind with
    | ']' :: rest => return ([item], rest)
    | ',' :: rest =>
      let (items, behind) ← readItems fuel room rest
      return (item :: items, behind)
    | _ => throw .malformed

/-- The fields of an object up to its closing brace. -/
def readFields : Nat → Nat → List Char → Except Fault (List (String × Value) × List Char)
  | 0, _, _ => .error .malformed
  | fuel + 1, room, cs =>
    match skipSpace cs with
    | [] => .error .malformed
    | quote :: rest =>
      if quote ≠ doubleQuote then .error .malformed
      else do
        let (key, behindKey) ← orMalformed (readText rest)
        match skipSpace behindKey with
        | ':' :: behindColon =>
          let (value, behind) ← readValue fuel room behindColon
          match skipSpace behind with
          | ',' :: rest =>
            let (fields, behind) ← readFields fuel room rest
            return ((key, value) :: fields, behind)
          | closing :: rest =>
            if closing = Char.ofNat 0x7D then return ([(key, value)], rest) else throw .malformed
          | [] => throw .malformed
        | _ => throw .malformed

end

/-- The value that a text writes, blanks around it aside, if no more than so many lists and objects are
open at once. Every value takes at least one character, so the length of the text bounds the number of
steps. -/
def parse (depth : Nat) (s : String) : Except Fault Value := do
  let cs := s.toList
  let (value, behind) ← readValue (2 * cs.length + 2) depth cs
  if (skipSpace behind).isEmpty then return value else throw .malformed

end WiringQuote.Json
