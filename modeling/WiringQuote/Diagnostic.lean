import WiringQuote.Value.Text

/-!
# Diagnostics

What did not fit while a configuration was resolved, without stopping it.
-/

namespace WiringQuote

open Decimal

inductive Diagnostic where
  | unknownPackage (instanceId : String) (packageId : Value)
  | referenceCycle (group referenced : String)
  | noProduct (ruleId : Int) (group instanceId : String)
  | noProtectionProduct (group : String) (quantity : Number)
  | noEnclosureProduct (slots : Number) (tier : Int) (itemId : String)
  | missingRates (locationId : Option String)

namespace Diagnostic

def code : Diagnostic → String
  | .unknownPackage .. => "UNKNOWN_PACKAGE"
  | .referenceCycle .. => "GROUP_REF_CYCLE"
  | .noProduct .. => "NO_PRODUCT"
  | .noProtectionProduct .. => "NO_PROTECTION_PRODUCT"
  | .noEnclosureProduct .. => "NO_ENCLOSURE_PRODUCT"
  | .missingRates _ => "MISSING_RATES"

def message : Diagnostic → String
  | .unknownPackage instanceId packageId =>
    "Instance " ++ instanceId ++ " references unknown package " ++ packageId.text
  | .referenceCycle group referenced =>
    "Group reference " ++ group ++ " -> " ++ referenced ++ " is part of a cycle; term ignored"
  | .noProduct ruleId group _ =>
    "No product for group " ++ group ++ " (rule " ++ intText ruleId ++ ") at any quality level"
  | .noProtectionProduct group quantity =>
    "No product for protection group " ++ group ++ "; " ++ quantity.text ++ " units skipped"
  | .noEnclosureProduct slots tier _ =>
    "No " ++ intText tier ++ "-module enclosure product for " ++ slots.text ++
      " slots; enclosure left unchanged"
  | .missingRates locationId =>
    "No labor rates for location " ++ (Value.ofOption .str locationId).text ++
      "; wages default to 0"

/-- The particulars of a diagnostic by name. -/
def context : Diagnostic → List (String × Value)
  | .unknownPackage instanceId packageId =>
    [("instance_id", .str instanceId), ("package_id", packageId)]
  | .referenceCycle group referenced =>
    [("group_id", .str group), ("referenced_group_id", .str referenced)]
  | .noProduct ruleId group instanceId =>
    [("rule_id", .int ruleId), ("group_id", .str group), ("instance_id", .str instanceId)]
  | .noProtectionProduct group quantity =>
    [("group_id", .str group), ("quantity", .num quantity)]
  | .noEnclosureProduct slots tier itemId =>
    [("slots", .num slots), ("tier", .int tier), ("item_id", .str itemId)]
  | .missingRates locationId => [("location_id", .ofOption .str locationId)]

end Diagnostic

end WiringQuote
