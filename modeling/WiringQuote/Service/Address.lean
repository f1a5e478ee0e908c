import WiringQuote.Text.Blank
import WiringQuote.Text.Utf8

/-!
# Addresses

The address of a request is a path and an optional query. A scheme and an authority before the path do not
count, nor does what follows a number sign. A part `.` of a path stands for nothing and `..` takes back the
part before it. Bytes may be written as a percent sign and two hexadecimal digits; a percent sign before
anything else stands for itself. A path is decoded on its way to the service and once more when it arrives,
before it is divided at its slashes; a query is decoded after it is divided into fields, and a plus sign in
it is a blank.
-/

namespace WiringQuote.Service

open Text

/-! ## Percent signs -/

/-- The value of a hexadecimal digit in either case. -/
def hexValue? (c : Char) : Option Nat :=
  let code := c.toNat
  if 48 ≤ code ∧ code ≤ 57 then some (code - 48)
  else if 65 ≤ code ∧ code ≤ 70 then some (code - 55)
  else if 97 ≤ code ∧ code ≤ 102 then some (code - 87)
  else none

/-- The byte that two hexadecimal digits write. -/
def hexByte? (high low : Char) : Option UInt8 := do
  return UInt8.ofNat ((← hexValue? high) * 16 + (← hexValue? low))

/-- The bytes that a text stands for. -/
def percentBytes : List Char → List UInt8
  | [] => []
  | '%' :: high :: low :: rest =>
    match hexByte? high low with
    | some b => b :: percentBytes rest
    | none => String.utf8EncodeChar '%' ++ percentBytes (high :: low :: rest)
  | c :: rest => String.utf8EncodeChar c ++ percentBytes rest

/-- The text with its percent signs resolved. -/
def percentDecode (s : String) : String := String.ofList (utf8Chars (percentBytes s.toList))

example : percentDecode "St%C3%BCck%20100%" = "Stück 100%" := by decide +kernel

/-! ## Path and query -/

/-- The text before the first occurrence of a character, and the text behind it. -/
def splitAtFirst (separator : Char) (s : String) : String × Option String :=
  let cs := s.toList
  (String.ofList (cs.takeWhile (· != separator)),
    match cs.dropWhile (· != separator) with
    | [] => none
    | _ :: rest => some (String.ofList rest))

/-- A field of a query; one without an equals sign is empty. -/
def queryField (s : String) : String × String :=
  let (name, value) := splitAtFirst '=' s
  let decode (part : String) : String := percentDecode (replaceChar '+' ' ' part)
  (decode name, decode (value.getD ""))

/-- The fields of a query in order. -/
def queryFields (query : String) : List (String × String) :=
  ((pieces '&' query).filter (!·.isEmpty)).map queryField

/-- Adds a part of a path to those before it, the last one first. -/
def addPart (before : List String) (part : String) : List String :=
  if part = "." then before
  else if part = ".." then (if before = [""] then before else before.drop 1)
  else part :: before

/-- The path with its dots resolved. -/
def resolveDots (path : String) : String :=
  "/".intercalate ((pieces '/' path).foldl addPart []).reverse

example : resolveDots "/a/./b/../c" = "/a/c" := by decide +kernel

/-- A character of the name of a scheme. -/
def isSchemeChar (c : Char) : Bool := c.isAlphanum || c == '+' || c == '-' || c == '.'

/-- Whether a scheme is named, and the text behind it. -/
def afterScheme (cs : List Char) : Bool × List Char :=
  let name := cs.takeWhile isSchemeChar
  match cs.dropWhile isSchemeChar with
  | ':' :: rest => if (name.headD 'a').isAlpha then (!name.isEmpty, rest) else (false, cs)
  | _ => (false, cs)

/-- Whether an authority is named, and the text behind it. -/
def afterAuthority (cs : List Char) : Bool × List Char :=
  match cs with
  | '/' :: '/' :: rest =>
    let path := rest.dropWhile (· != '/')
    (path.length != rest.length, path)
  | _ => (false, cs)

/-- The path of an address; it starts with one slash unless a scheme and an authority go before it. -/
def pathOf (s : String) : String :=
  let (hasScheme, rest) := afterScheme s.toList
  let (hasAuthority, path) := afterAuthority rest
  String.ofList (if hasScheme && hasAuthority then path else '/' :: path.dropWhile (· == '/'))

example : pathOf "//host/a" = "/a" := by decide +kernel
example : pathOf "a/b" = "/a/b" := by decide +kernel

/-- Where a request is directed. -/
structure Address where
  /-- The decoded path. -/
  path : String
  /-- The query as it is written. -/
  query : String
deriving DecidableEq, Repr

namespace Address

def ofText (s : String) : Address :=
  let (path, query) := splitAtFirst '?' (splitAtFirst '#' s).1
  ⟨percentDecode (percentDecode (resolveDots (pathOf path))), query.getD ""⟩

/-- The last value of a query field. -/
def field? (address : Address) (name : String) : Option String :=
  ((queryFields address.query).filter fun field => field.1 = name).getLast?.map (·.2)

/-- The path without the slashes at its end, if it has any. -/
def trimmedPath? (address : Address) : Option String :=
  match address.path.toList.reverse with
  | '/' :: rest => some (String.ofList (rest.dropWhile (· == '/')).reverse)
  | _ => none

end Address

end WiringQuote.Service
