import WiringQuote.Decimal.Places
import WiringQuote.Decimal.Text
import WiringQuote.Log.Fault
import WiringQuote.Value.Basic

/-!
# Timestamps

A moment is a number of seconds since the start of 1970, in universal time. It is written in two ways:
to the nearest microsecond, which is left out when it is zero, and to the second, with milliseconds
that are given apart from it. The calendar has the years 1 to 9999. Years are counted from March, so
that a leap day ends a year and every rule repeats after 400 years.
-/

namespace WiringQuote.Log

open Decimal

/-- A date of the Gregorian calendar. -/
structure Date where
  year : Int
  month : Nat
  day : Nat
deriving DecidableEq, Repr

namespace Date

/-- The days of 400 years. -/
def eraDays : Nat := 146097

/-- The days from the first of March of the year 0 to the start of 1970. -/
def daysBefore1970 : Int := 719468

/-- The date that lies a number of days behind the start of 1970. -/
def ofDays (days : Int) : Date :=
  let shifted := days + daysBefore1970
  let era := shifted.fdiv eraDays
  let dayOfEra := (shifted - era * eraDays).toNat
  let yearOfEra := (dayOfEra - dayOfEra / 1460 + dayOfEra / 36524 - dayOfEra / 146096) / 365
  let dayOfYear := dayOfEra - (365 * yearOfEra + yearOfEra / 4 - yearOfEra / 100)
  let monthFromMarch := (5 * dayOfYear + 2) / 153
  let month := if monthFromMarch < 10 then monthFromMarch + 3 else monthFromMarch - 9
  { year := yearOfEra + era * 400 + (if month ≤ 2 then 1 else 0)
    month
    day := dayOfYear - (153 * monthFromMarch + 2) / 5 + 1 }

/-- The month and the day. -/
def dayText (date : Date) : String := "-" ++ padded 2 date.month ++ "-" ++ padded 2 date.day

/-- A date with a year of at least four digits. -/
def text (date : Date) : String := padded 4 date.year.toNat ++ date.dayText

/-- A date with as many digits of the year as it has. -/
def shortText (date : Date) : String := intText date.year ++ date.dayText

example : ofDays 11016 = ⟨2000, 2, 29⟩ := by decide
example : ofDays 11017 = ⟨2000, 3, 1⟩ := by decide
example : ofDays (-1) = ⟨1969, 12, 31⟩ := by decide

end Date

def secondsOfDay : Int := 86400

/-- The date of a second. -/
def dateOf (seconds : Int) : Date := Date.ofDays (seconds.fdiv secondsOfDay)

/-- The time of day of a second. -/
def clockText (seconds : Int) : String :=
  let second := (seconds.fmod secondsOfDay).toNat
  padded 2 (second / 3600) ++ ":" ++ padded 2 (second / 60 % 60) ++ ":" ++ padded 2 (second % 60)

/-! ## Moments -/

/-- A second and the microseconds behind it. -/
structure Moment where
  seconds : Int
  microseconds : Nat
deriving DecidableEq, Repr

namespace Moment

/-- So many microseconds. -/
def ofMicroseconds (total : Int) : Moment :=
  ⟨total.fdiv 1000000, (total.fmod 1000000).toNat⟩

/-- The moment that is a number of seconds, to the nearest microsecond. -/
def ofFloat (x : Float) : Except RecordFault Moment :=
  if x.isNaN then .error .undefinedMoment
  else if !x.isFinite then .error .momentOutOfRange
  else
    let whole := wholePart x
    let fraction := (x - Float.ofInt whole) * 1000000.0
    .ok (.ofMicroseconds (whole * 1000000 + wholePart (roundPlaces 0 fraction)))

/-- The moment that a value stands for. -/
def ofValue : Value → Except RecordFault Moment
  | .bool b => .ok ⟨if b then 1 else 0, 0⟩
  | .num (.int n) => .ok ⟨n, 0⟩
  | .num (.float x) => ofFloat x
  | v => .error (.notMoment v.kindName)

/-- The second, which has to fit into 64 bits. -/
def secondInRange (moment : Moment) : Except RecordFault Int :=
  if -(Nat.pow 2 63 : Int) ≤ moment.seconds ∧ moment.seconds < (Nat.pow 2 63 : Int) then
    .ok moment.seconds
  else .error .momentOutOfRange

/-- The years from 1900 on, or before it, are counted in 32 bits. -/
def countableYear (year : Int) : Bool :=
  decide (-(Nat.pow 2 31 : Int) ≤ year - 1900 ∧ year - 1900 < (Nat.pow 2 31 : Int))

/-- The date of a moment, which has to lie in the calendar. -/
def date (moment : Moment) : Except RecordFault Date := do
  let date := dateOf (← moment.secondInRange)
  if !countableYear date.year then throw .momentBeyondYears
  if date.year < 1 ∨ 9999 < date.year then throw (.yearOutOfRange date.year)
  return date

/-- A moment as machines read it. -/
def isoText (moment : Moment) : Except RecordFault String := do
  let shown :=
    if moment.microseconds = 0 then "" else "." ++ padded 6 moment.microseconds
  return (← moment.date).text ++ "T" ++ clockText moment.seconds ++ shown ++ "+00:00"

end Moment

/-- The second of a value, the part behind the point cut off toward the past. -/
def secondOf : Value → Except RecordFault Int
  | .num (.float x) => (floor x).mapError .arithmetic
  | v => do return (← Moment.ofValue v).seconds

/-- A moment to the second, as people read it. -/
def plainText (value : Value) : Except RecordFault String := do
  let second ← secondOf value
  return (dateOf second).shortText ++ " " ++ clockText second

/-- The milliseconds of a number of seconds, with a fraction if the number has one. -/
def millisecondsOf : Number → Except Fault Number
  | .int _ => .ok (.int 0)
  | .float x => do
    let whole ← truncate x
    return .float ((x - Float.ofInt whole) * 1000.0)

end WiringQuote.Log
