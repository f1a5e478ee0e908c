import WiringQuote.Json.Printer
import WiringQuote.Log.Level
import WiringQuote.Log.Message
import WiringQuote.Log.Timestamp
import WiringQuote.OrderedMap

/-!
# Log records

A record is a set of named attributes: those of the event that it reports, and extra ones, which win
over them. It is written as one object for machines or as one line for people. The object holds the
attributes that a service chose as context, as far as the record has them; the line ends with the
session that the record belongs to.
-/

namespace WiringQuote.Log

open Decimal

/-! ## Events -/

/-- What a service reports. -/
structure Event where
  logger : Value
  level : Value
  /-- The file that the event comes from. -/
  path : Value
  line : Value
  template : Value
  arguments : List Value
  function : Value
  created : Number
  /-- The text of the error that the event reports. -/
  error : Option String

namespace Event

/-- The characters behind the last slash. -/
def fileName (path : String) : List Char :=
  (path.toList.reverse.takeWhile (· != '/')).reverse

/-- A file name without its ending. Dots at the start begin no ending. -/
def withoutEnding (name : List Char) : List Char :=
  let stem := (name.reverse.dropWhile (· != '.')).drop 1
  if stem.all (· == '.') then name else stem.reverse

/-- The file and the module of a path; a value that is no path names no module. -/
def places (path : Value) : Value × Value :=
  match path with
  | .str s =>
    let name := fileName s
    (.str (String.ofList name), .str (String.ofList (withoutEnding name)))
  | other => (other, .str "Unknown module")

/-- The error as an attribute: its kind, its text and no place. -/
def errorValue : Option String → Value
  | none => .null
  | some text => .list [.str "<class 'ValueError'>", .str text, .null]

/-- The error as it is shown. -/
def errorText (text : String) : String :=
  if text.isEmpty then "ValueError" else "ValueError: " ++ text

/-- The attributes of the event. -/
def attributes (event : Event) : Except RecordFault (List (String × Value)) := do
  let milliseconds ← (millisecondsOf event.created).mapError .arithmetic
  let (file, module) := places event.path
  return [
    ("name", event.logger),
    ("msg", event.template),
    ("args", (Arguments.ofList event.arguments).toValue),
    ("levelname", levelName event.level),
    ("levelno", event.level),
    ("pathname", event.path),
    ("filename", file),
    ("module", module),
    ("exc_info", errorValue event.error),
    ("exc_text", .null),
    ("stack_info", .null),
    ("lineno", event.line),
    ("funcName", event.function),
    ("created", .num event.created),
    ("msecs", .num milliseconds),
    ("threadName", .str "MainThread"),
    ("processName", .str "MainProcess")]

end Event

/-! ## Records -/

structure Record where
  attributes : OrderedMap String Value
  arguments : Arguments
  /-- The shown text of the error, if there is one. -/
  error : Except RecordFault (Option String)

/-- The attributes that are written as context unless others are chosen. -/
def defaultContext : Value :=
  .list (["session_id", "instance_id", "request_id", "duration_ms", "http_status"].map .str)

/-- The record of an event with extra attributes. -/
def Event.record (event : Event) (extra : OrderedMap String Value) : Except RecordFault Record := do
  let own ← event.attributes
  return {
    attributes := (OrderedMap.ofList own).overlay extra
    arguments := match extra.get? "args" with
      | some value => .ofValue value
      | none => .ofList event.arguments
    error := match extra.get? "exc_info" with
      | some value => if value.isPresent then .error (.notError value.kindName) else .ok none
      | none => .ok (event.error.map Event.errorText) }

namespace Record

def valueOf (record : Record) (key : String) : Value := (record.attributes.get? key).getD .null

/-- The attribute, if it counts as present. -/
def present? (record : Record) (key : String) : Option Value :=
  (record.attributes.get? key).filter (·.isPresent)

/-- The message with its arguments. -/
def text (record : Record) : Except RecordFault String :=
  messageText (record.valueOf "msg").text record.arguments

/-- Where the record comes from. -/
def sourceText (record : Record) : String :=
  (record.valueOf "module").text ++ "." ++ (record.valueOf "funcName").text ++ ":" ++
    (record.valueOf "lineno").text

/-! ## Context -/

/-- The chosen attributes by name. -/
def chosenNames (chosen : Value) : Except RecordFault (List Value) :=
  match chosen.elements? with
  | some names => .ok names
  | none => .error (.notNames chosen.kindName)

/-- The context that the record has of one chosen attribute. -/
def contextEntry (record : Record) (name : Value) : Except RecordFault (Option (String × Value)) :=
  match name with
  | .str key => .ok ((record.attributes.get? key).map fun value => (key, value))
  | other => .error (.notName other.kindName)

/-- The context that the record has of the chosen attributes. -/
def context (record : Record) (names : List Value) : Except RecordFault (List (String × Value)) := do
  return (← names.mapM record.contextEntry).filterMap id

/-! ## Writing -/

/-- The record as an object. -/
def entry (record : Record) (chosen : Value) : Except RecordFault (OrderedMap String Value) := do
  let names ← chosenNames chosen
  let timestamp ← (← Moment.ofValue (record.valueOf "created")).isoText
  let text ← record.text
  let fixed : List (String × Value) :=
    [ ("timestamp", .str timestamp),
      ("level", record.valueOf "levelname"),
      ("logger", record.valueOf "name"),
      ("message", .str text),
      ("source", .str record.sourceText)]
  let context ← record.context names
  let error := match ← record.error with
    | some text => [("exception", Value.str text)]
    | none => []
  return .ofList (fixed ++ context ++ error)

/-- The record for machines. -/
def objectText (record : Record) (chosen : Value) : Except RecordFault String := do
  return Json.render (.obj (← record.entry chosen).entries)

/-- Milliseconds in at least three digits. -/
def millisecondsText (value : Value) : Except RecordFault String :=
  (writeArgument { Directive.start with zeros := true, width := 3 } 'd' 0 value).map String.ofList

/-- A text behind another one, on a line of its own. -/
def onNewLine (line text : String) : String :=
  if line.toList.getLast? == some '\n' then line ++ text else line ++ "\n" ++ text

/-- The line with an attribute on a line of its own, if it is present. -/
def withAttribute (line : String) : Option Value → Except RecordFault String
  | none => .ok line
  | some (.str text) => .ok (onNewLine line text)
  | some value => .error (.notText value.kindName)

/-- The error as it is added to a line: the text that is kept with the record, else its own. -/
def errorAttribute (record : Record) : Except RecordFault (Option Value) :=
  match record.present? "exc_text" with
  | some value => .ok (some value)
  | none => record.error.map fun text => text.map .str

/-- The record for people. -/
def lineText (record : Record) : Except RecordFault String := do
  let text ← record.text
  let time ← plainText (record.valueOf "created")
  let milliseconds ← millisecondsText (record.valueOf "msecs")
  let line := time ++ "," ++ milliseconds ++ " [" ++ (record.valueOf "name").text ++ "] " ++
    (record.valueOf "levelname").text ++ ": " ++ text
  let withError ← withAttribute line (← record.errorAttribute)
  let withStack ← withAttribute withError (record.present? "stack_info")
  return match record.present? "session_id" with
    | some id => withStack ++ " [session " ++ id.text ++ "]"
    | none => withStack

end Record

end WiringQuote.Log
