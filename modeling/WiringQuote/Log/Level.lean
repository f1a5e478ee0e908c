import WiringQuote.Value.Text

/-!
# Levels

The levels of importance have names. A level without a name is written by its number.
-/

namespace WiringQuote.Log

open Decimal

/-- The levels with their names. -/
def levels : List (Int × String) :=
  [(50, "CRITICAL"), (40, "ERROR"), (30, "WARNING"), (20, "INFO"), (10, "DEBUG"), (0, "NOTSET")]

/-- Other names of levels. -/
def otherNames : List (Int × String) := [(50, "FATAL"), (30, "WARN")]

/-- The level that a name in upper case stands for. -/
def levelOf? (name : String) : Option Int :=
  ((levels ++ otherNames).find? fun level => level.2 = name).map (·.1)

/-- The name of a level; for a name the level. -/
def levelName (level : Value) : Value :=
  let named := level.whole?.bind fun n => (levels.find? fun entry => entry.1 = n).map (·.2)
  match named, level.text?.bind levelOf? with
  | some name, _ => .str name
  | none, some n => .int n
  | none, none => .str ("Level " ++ level.text)

end WiringQuote.Log
