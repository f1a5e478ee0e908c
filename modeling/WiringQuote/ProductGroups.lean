/-!
# Product groups with a meaning

The groups whose products decide about protection devices and the enclosure.
-/

namespace WiringQuote.ProductGroups

def socketSingle : String := "GRP-SOC-SKT"

def socketDouble : String := "GRP-SOC-DBL"

def lightSwitch : String := "GRP-SWI-AUS"

def stove : String := "GRP-SOC-HERD"

/-- One-pole breaker for sockets. -/
def breakerB16 : String := "GRP-MCB-B16"

/-- One-pole breaker for lights. -/
def breakerB10 : String := "GRP-MCB-B10"

/-- Three-pole breaker for a stove. -/
def breakerB16ThreePole : String := "GRP-MCB-B16-3P"

/-- Residual current device. -/
def residualCurrent : String := "GRP-RCD-40A"

/-- Main disconnect switch. -/
def mainSwitch : String := "GRP-LTS-35A"

def enclosure : String := "GRP-VERT-UV"

def breakers : List String := [breakerB16, breakerB10, breakerB16ThreePole]

/-- The groups whose quantities are derived and never taken from rules. -/
def protection : List String := breakers ++ [residualCurrent, mainSwitch]

/-- The group is one of those listed; no group is not. -/
def isIn (groups : List String) (group : Option String) : Bool :=
  match group with
  | none => false
  | some name => groups.contains name

end WiringQuote.ProductGroups
