import WiringQuote.Decimal.Numeral
import WiringQuote.Decimal.Text
import WiringQuote.OrderedMap
import WiringQuote.Text.LowerCase
import WiringQuote.Text.Quoted

/-!
# Settings

The settings of the service are read from named texts; each has a default. The times and counts that
keep the number of sessions in check have least values, which smaller settings are raised to.
-/

namespace WiringQuote

open Decimal Text

/-- The settings of the service. -/
structure Settings where
  logLevel : String
  /-- In lower case. -/
  logFormat : String
  location : String
  /-- The origins from which requests are accepted. -/
  origins : List String
  /-- Travel costs in percent of material and labour. -/
  travelPercent : Float
  /-- The seconds after which a session that is not used is dropped. -/
  idleSeconds : Int
  maxSessions : Int

/-- Why a setting is refused. -/
inductive SettingFault where
  | notNumber (text : String)
  | notWhole (text : String)
  | tooManyDigits (count : Nat)
deriving DecidableEq, Repr

namespace SettingFault

/-- Messages show at most so many characters of a text that is no whole number. -/
def shownLimit : Nat := 200

def message : SettingFault → String
  | .notNumber text => "could not convert string to float: " ++ quoted text
  | .notWhole text =>
    "invalid literal for int() with base 10: " ++
      String.ofList ((quoted text).toList.take shownLimit)
  | .tooManyDigits count =>
    "Exceeds the limit (" ++ natText digitLimit ++
      " digits) for integer string conversion: value has " ++ natText count ++
      " digits; use sys.set_int_max_str_digits() to increase the limit"

end SettingFault

namespace Settings

def leastIdleSeconds : Int := 60

def defaultIdleSeconds : Int := 3600

def leastSessions : Int := 1

def defaultSessions : Int := 500

/-- The number that a text writes. -/
def number (text : String) : Except SettingFault Float :=
  match readFloat? text with
  | some x => .ok x
  | none => .error (.notNumber text)

/-- The whole number that a text writes. -/
def whole (text : String) : Except SettingFault Int :=
  match readInt text with
  | .ok n => .ok n
  | .error .malformed => .error (.notWhole text)
  | .error (.tooLong count) => .error (.tooManyDigits count)

/-- The parts of a list that is separated by commas. -/
def listed (text : String) : List String :=
  ((pieces ',' text).map trim).filter (!·.isEmpty)

/-- The settings that the texts give. -/
def ofTexts (texts : OrderedMap String String) : Except SettingFault Settings := do
  let text (name default : String) : String := (texts.get? name).getD default
  let travelPercent ← number (text "TRAVEL_COST_PCT" "5.0")
  let idleSeconds ← whole (text "SESSION_IDLE_TTL" (intText defaultIdleSeconds))
  let maxSessions ← whole (text "MAX_SESSIONS" (intText defaultSessions))
  return {
    logLevel := text "LOG_LEVEL" "INFO"
    logFormat := lower (text "LOG_FORMAT" "json")
    location := text "DEFAULT_LOCATION_ID" "1"
    origins := listed (text "CORS_ORIGINS" "*")
    travelPercent
    idleSeconds := max leastIdleSeconds idleSeconds
    maxSessions := max leastSessions maxSessions }

end Settings

end WiringQuote
