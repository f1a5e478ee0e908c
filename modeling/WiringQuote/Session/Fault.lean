import WiringQuote.Catalog.Parameter
import WiringQuote.Session.Override

/-!
# Why a session refuses

Every refusal names its cause. `arithmetic` is no refusal: a number went beyond what can be
computed, and what was stored before that stays stored.
-/

namespace WiringQuote

open Decimal Text

inductive SessionFault where
  | parameter (fault : ParameterFault)
  | unknownLocation (id : Value)
  | override (fault : OverrideFault)
  | unknownPackage (id : Value)
  | unknownInstance (id : Value)
  | unknownItem (id : Value)
  | invalidState
  | packageKey (key : Value)
  | unknownScope (name : String)
  | unusableKey (kind : String)
  | arithmetic (fault : Fault)

namespace SessionFault

def ofParameter : ParameterFault → SessionFault
  | .arithmetic fault => .arithmetic fault
  | fault => .parameter fault

def ofOverride : OverrideFault → SessionFault
  | .arithmetic fault => .arithmetic fault
  | fault => .override fault

def message : SessionFault → String
  | .parameter fault => fault.message
  | .unknownLocation id => "Unknown location " ++ id.text
  | .override fault => fault.message
  | .unknownPackage id => "Unknown package " ++ id.text
  | .unknownInstance id => id.text
  | .unknownItem id => id.text
  | .invalidState => ""
  | .packageKey key => "Package totals need a numeric package id, got " ++ key.shown
  | .unknownScope name => "Unknown totals scope '" ++ name ++ "'"
  | .unusableKey kind => "unhashable type: " ++ quoted kind
  | .arithmetic fault => fault.message

end SessionFault

end WiringQuote
