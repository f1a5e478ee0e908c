import WiringQuote.Log.Directive

/-!
# Messages with arguments

A message may hold directives, each a percent sign, flags, a width, a precision, a size and a letter.
Each takes the next argument and writes it by its letter; the size says nothing. A star takes an
argument for the width or the precision, and a name between parentheses takes the argument from a
mapping. Two percent signs write one. Without arguments a message stands as it is, percent signs
included.
-/

namespace WiringQuote.Log

/-- What a message is written with. -/
inductive Arguments where
  | none
  | listed (values : List Value)
  /-- One value, which directives may take as a whole or by its keys. -/
  | single (value : Value)

namespace Arguments

/-- Arguments as they are given; a mapping that is the only argument is taken by its keys. -/
def ofList : List Value → Arguments
  | [] => .none
  | [.obj (field :: fields)] => .single (.obj (field :: fields))
  | values => .listed values

/-- The arguments that one value stands for; nothing that counts as absent is an argument. -/
def ofValue (value : Value) : Arguments := if value.isPresent then .single value else .none

/-- The arguments as one value. -/
def toValue : Arguments → Value
  | .none => .list []
  | .listed values => .list values
  | .single value => value

end Arguments

/-! ## Taking arguments -/

/-- The arguments that are still to be taken. -/
structure Supply where
  next : List Value
  /-- What names are looked up in. -/
  named : Option Value

namespace Supply

/-- The arguments of a message that has some. -/
def ofArguments : Arguments → Supply
  | .none => ⟨[], none⟩
  | .listed values => ⟨values, none⟩
  | .single (.obj fields) => ⟨[.obj fields], some (.obj fields)⟩
  | .single (.list values) => ⟨[.list values], some (.list values)⟩
  | .single value => ⟨[value], none⟩

def take (supply : Supply) : Except RecordFault (Value × Supply) :=
  match supply.next with
  | [] => .error .tooFewArguments
  | argument :: rest => .ok (argument, { supply with next := rest })

/-- Refuses a name where arguments have none. -/
def requireNames (supply : Supply) : Except RecordFault Unit :=
  if supply.named.isSome then .ok () else .error .noMapping

/-- The argument with a name comes next, and no other one behind it. -/
def choose (supply : Supply) (key : String) : Except RecordFault Supply :=
  match supply.named with
  | some (.list _) => .error .keyOfList
  | some value =>
    match value.get? key with
    | some argument => .ok { supply with next := [argument] }
    | none => .error (.missingKey key)
  | none => .error .noMapping

/-- Arguments without names are all taken in the end. -/
def finish (supply : Supply) : Except RecordFault Unit :=
  if supply.named.isNone && !supply.next.isEmpty then .error .tooManyArguments else .ok ()

/-- Takes a number that fits into so many bits. -/
def takeNumber (supply : Supply) (bits : Nat) (outOfRange : RecordFault) :
    Except RecordFault (Int × Supply) := do
  let (argument, rest) ← supply.take
  match exactArgument? argument with
  | none => throw .notWidth
  | some n =>
    if -(Nat.pow 2 (bits - 1) : Int) ≤ n ∧ n < (Nat.pow 2 (bits - 1) : Int) then return (n, rest)
    else throw outOfRange

end Supply

/-! ## Templates -/

/-- Where the reading of a template stands. -/
inductive Stage where
  | plain
  /-- Directly behind a percent sign. -/
  | opened
  /-- In a name, within so many parentheses; the characters of the name come last one first. -/
  | key (depth : Nat) (read : List Char)
  | flags (d : Directive)
  /-- In the digits of a width. -/
  | width (d : Directive)
  /-- Behind a width that an argument gives. -/
  | taken (d : Directive)
  /-- Directly behind the point. -/
  | point (d : Directive)
  /-- In the digits of a precision. -/
  | precision (d : Directive)
  /-- Only a size and the letter are missing. -/
  | sizes (d : Directive)
  /-- Only the letter is missing. -/
  | sized (d : Directive)

/-- The stage that a character of a directive leads to; none if the character is its letter. -/
abbrev Advance := Except RecordFault (Option (Stage × Supply))

/-- The value of one more decimal digit. -/
def moreDigit (n : Nat) (c : Char) : Nat := n * 10 + (c.toNat - 48)

namespace Stage

/-- A width is below this power of two. -/
def widthBits : Nat := 64

/-- A precision is below this power of two. -/
def precisionBits : Nat := 32

/-- A number that is read digit by digit and has to stay within so many bits, the sign among them. -/
def within (bits : Nat) (fault : RecordFault) (n : Nat) : Except RecordFault Nat :=
  if n < Nat.pow 2 (bits - 1) then .ok n else .error fault

/-- What a character adds as a size. -/
def atSize (d : Directive) (supply : Supply) (c : Char) : Advance :=
  if c = 'h' ∨ c = 'l' ∨ c = 'L' then .ok (some (.sized d, supply)) else .ok none

/-- What a character adds to the digits of a precision. -/
def inPrecision (d : Directive) (supply : Supply) (c : Char) : Advance :=
  if c.isDigit then do
    let n ← within precisionBits .precisionTooBig (moreDigit (d.precision.getD 0) c)
    return some (.precision { d with precision := some n }, supply)
  else atSize d supply c

/-- What a character adds behind the point. -/
def atPrecision (d : Directive) (supply : Supply) (c : Char) : Advance :=
  if c = '*' then do
    let (n, rest) ← supply.takeNumber precisionBits .precisionOutOfRange
    return some (.sizes { d with precision := some n.toNat }, rest)
  else inPrecision d supply c

/-- What a character adds behind a width. -/
def atPoint (d : Directive) (supply : Supply) (c : Char) : Advance :=
  if c = '.' then .ok (some (.point { d with precision := some 0 }, supply))
  else atSize d supply c

/-- What a character adds to the digits of a width. -/
def inWidth (d : Directive) (supply : Supply) (c : Char) : Advance :=
  if c.isDigit then do
    let n ← within widthBits .widthTooBig (moreDigit d.width c)
    return some (.width { d with width := n }, supply)
  else atPoint d supply c

/-- What a character adds to the flags. -/
def inFlags (d : Directive) (supply : Supply) (c : Char) : Advance :=
  match d.flag? c with
  | some flagged => .ok (some (.flags flagged, supply))
  | none =>
    if c = '*' then do
      let (n, rest) ← supply.takeNumber widthBits .widthOutOfRange
      return some (.taken (d.withWidth n), rest)
    else inWidth d supply c

/-- What a character adds to a name; parentheses within it come in pairs. -/
def inKey (depth : Nat) (read : List Char) (supply : Supply) (c : Char) : Advance :=
  if c = ')' ∧ depth = 1 then do
    return some (.flags .start, ← supply.choose (String.ofList read.reverse))
  else
    let inner := if c = '(' then depth + 1 else if c = ')' then depth - 1 else depth
    .ok (some (.key inner (c :: read), supply))

/-- What a character adds behind the percent sign. -/
def atOpening (supply : Supply) (c : Char) : Advance :=
  if c = '(' then do
    supply.requireNames
    return some (.key 1 [], supply)
  else inFlags .start supply c

/-- What a character adds to a directive. -/
def advance (stage : Stage) (supply : Supply) (c : Char) : Advance :=
  match stage with
  | .plain | .sized _ => .ok none
  | .opened => atOpening supply c
  | .key depth read => inKey depth read supply c
  | .flags d => inFlags d supply c
  | .width d => inWidth d supply c
  | .taken d => atPoint d supply c
  | .point d => atPrecision d supply c
  | .precision d => inPrecision d supply c
  | .sizes d => atSize d supply c

def directive : Stage → Directive
  | .plain | .opened | .key _ _ => .start
  | .flags d | .width d | .taken d | .point d | .precision d | .sizes d | .sized d => d

/-- What the end of the template means at this stage. -/
def finish (stage : Stage) (supply : Supply) : Except RecordFault Unit :=
  match stage with
  | .plain => supply.finish
  | .key _ _ => .error .incompleteKey
  | _ => .error .incompleteDirective

/-- Whether a percent sign at this stage stands for itself. -/
def isOpened : Stage → Bool
  | .opened => true
  | _ => false

end Stage

/-- The text of a template behind its first `index` characters. -/
def fillTemplate : Nat → Stage → Supply → List Char → Except RecordFault (List Char)
  | _, stage, supply, [] => do
    stage.finish supply
    return []
  | index, .plain, supply, c :: rest =>
    if c = '%' then fillTemplate (index + 1) .opened supply rest
    else do return c :: (← fillTemplate (index + 1) .plain supply rest)
  | index, stage, supply, c :: rest => do
    if c = '%' ∧ stage.isOpened then return '%' :: (← fillTemplate (index + 1) .plain supply rest)
    match ← stage.advance supply c with
    | some (next, remaining) => fillTemplate (index + 1) next remaining rest
    | none => do
      let (argument, remaining) ← supply.take
      let written ← writeArgument stage.directive c index argument
      return written ++ (← fillTemplate (index + 1) .plain remaining rest)

/-- A message with its arguments. -/
def messageText (template : String) (arguments : Arguments) : Except RecordFault String :=
  match arguments with
  | .none => .ok template
  | _ =>
    (fillTemplate 0 .plain (.ofArguments arguments) template.toList).map String.ofList

end WiringQuote.Log
