import WiringQuote.Value.Basic

/-!
# Formulas

A formula says how a quantity, or a multiplier of hours, depends on the parameters of a
configuration. It is a list of entries whose contributions add up from left to right:

* `lookup`: a table gives the contribution for the value of one parameter;
* `product`: a coefficient times the values of some parameters;
* `reference`: a share of the total quantity of another product group;
* `floor`: no contribution, but a least result (used for hours only).
-/

namespace WiringQuote

/-- One entry of a formula. -/
inductive Formula.Entry where
  | lookup (param : String) (table : List (String × Float))
  | product (params : List String) (coefficient : Float)
  | reference (group : String) (factor : Float)
  | floor (minimum : Float)

/-- A list of entries, in the order in which they contribute. -/
abbrev Formula := List Formula.Entry

/-- The values of the parameters that a formula sees. -/
abbrev Environment := OrderedMap String Value

/-- The total quantity of each product group. -/
abbrev GroupTotals := OrderedMap String Float

namespace Formula

/-- The referenced groups with the sum of their factors, in order of first reference. -/
def references (formula : Formula) : GroupTotals :=
  formula.foldl (fun refs entry =>
    match entry with
    | .reference group factor => refs.insert group ((refs.get? group).getD 0.0 + factor)
    | _ => refs) .empty

end Formula

end WiringQuote
