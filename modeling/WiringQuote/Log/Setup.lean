import WiringQuote.Log.Level
import WiringQuote.Text.Quoted
import WiringQuote.Text.UpperCase

/-!
# Setting up the log

The least level that is logged is chosen by name, in any case; an unknown name stands for the usual
level. Two names stand for layouts of records and are no levels. Libraries that report every request are
kept quiet.
-/

namespace WiringQuote.Log

open Text

/-- The two ways of writing records. -/
inductive Format where
  | object
  | line
deriving DecidableEq, Repr

structure Setup where
  level : Int
  format : Format
  /-- Loggers with a least level of their own. -/
  quiet : List (String × Int)

/-- Why a level cannot be set. -/
inductive SetupFault where
  /-- The level is chosen by something that is no text. -/
  | notName (kind : String)
  /-- The name stands for one layout. -/
  | layout
  /-- The name stands for the table of layouts. -/
  | layouts
deriving DecidableEq, Repr

namespace SetupFault

/-- The layouts, the usual one first, each with its mark and the class that reads it. -/
def table : List (String × String × String) :=
  [ ("%", "PercentStyle", "%(levelname)s:%(name)s:%(message)s"),
    ("\x7b", "StrFormatStyle", "\x7blevelname\x7d:\x7bname\x7d:\x7bmessage\x7d"),
    ("$", "StringTemplateStyle", "$\x7blevelname\x7d:$\x7bname\x7d:$\x7bmessage\x7d")]

def rowText (row : String × String × String) : String :=
  quoted row.1 ++ ": (<class 'logging." ++ row.2.1 ++ "'>, " ++ quoted row.2.2 ++ ")"

def message : SetupFault → String
  | .notName kind => quoted kind ++ " object has no attribute 'upper'"
  | .layout => "Unknown level: " ++ quoted "%(levelname)s:%(name)s:%(message)s"
  | .layouts =>
    "Level not an integer or a valid string: \x7b" ++ ", ".intercalate (table.map rowText) ++ "\x7d"

end SetupFault

namespace Setup

def usualLevel : Int := 20

def quietLevel : Int := 30

def quietLoggers : List String := ["uvicorn.access", "httpcore", "httpx", "sqlalchemy.engine"]

/-- The level that a name stands for. -/
def levelFor (name : String) : Except SetupFault Int :=
  let capitals := upper name
  if capitals = "BASIC_FORMAT" then .error .layout
  else if capitals = "_STYLES" then .error .layouts
  else .ok ((levelOf? capitals).getD usualLevel)

def ofChoice (level : Value) (asObjects : Bool) : Except SetupFault Setup :=
  match level with
  | .str name => do
    return {
      level := ← levelFor name
      format := if asObjects then .object else .line
      quiet := quietLoggers.map fun name => (name, quietLevel) }
  | other => .error (.notName other.kindName)

end Setup

end WiringQuote.Log
