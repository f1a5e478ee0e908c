import WiringQuote.Catalog.Basic
import WiringQuote.Diagnostic
import WiringQuote.Formula.Evaluate
import WiringQuote.Quantity.ReferenceGraph

/-!
# Quantities

Every rule of every selected package gets a quantity in two passes. The direct quantity is the base
with the lookups and products of its formula; summed per product group it gives the totals that
references read. The final quantity adds the references. A reference that lies on a cycle adds
nothing and is reported; negative quantities count as zero in totals.
-/

namespace WiringQuote

open Decimal

/-- A selected package with its parameter values. -/
structure Instance where
  id : String
  packageId : Value
  params : Environment

/-- A rule of a selected package and the parameter values that it sees. -/
structure Occurrence where
  instanceId : String
  packageId : Value
  rule : Rule
  env : Environment

/-- A rule with its quantities in both passes. -/
structure ResolvedRule extends Occurrence where
  direct : Float
  quantity : Float

/-- The quantities of a configuration. -/
structure Resolution where
  rules : List ResolvedRule
  /-- The totals of the first pass, which references read. -/
  referenceTotals : GroupTotals
  groupTotals : GroupTotals
  diagnostics : List Diagnostic

namespace Resolution

/-- The final quantity of a group. -/
def quantityOf (resolution : Resolution) (group : String) : Float :=
  (resolution.groupTotals.get? group).getD 0.0

/-- The rules of the known packages; an instance's parameters win over global ones. -/
def occurrences (catalog : Catalog) (instances : List Instance) (globals : Environment) :
    List Occurrence :=
  instances.flatMap fun inst =>
    if (catalog.package? inst.packageId).isSome then
      (catalog.rulesOf inst.packageId).map fun rule =>
        ⟨inst.id, inst.packageId, rule, globals.overlay inst.params⟩
    else []

def unknownPackages (catalog : Catalog) (instances : List Instance) : List Diagnostic :=
  (instances.filter fun inst => (catalog.package? inst.packageId).isNone).map fun inst =>
    .unknownPackage inst.id inst.packageId

/-- The references between the groups of the selected rules. -/
def referenceEdges (occurrences : List Occurrence) : List ReferenceEdge :=
  occurrences.flatMap fun occurrence =>
    occurrence.rule.material.references.keys.map fun group => (occurrence.rule.group, group)

/-- A formula without the references of its group that lie on a cycle. -/
def withoutCycles (cyclic : List ReferenceEdge) (rule : Rule) : Formula :=
  rule.material.filter fun entry =>
    match entry with
    | .reference group _ => !cyclic.contains (rule.group, group)
    | _ => true

/-- The formula of the second pass. Where any rule refers to a group, the formulas are kept by rule
id, and rules that share an id share the formula of the first of them. -/
def secondFormula (occurrences : List Occurrence) (edges cyclic : List ReferenceEdge)
    (rule : Rule) : Formula :=
  if edges.isEmpty then rule.material
  else
    match occurrences.find? fun occurrence => occurrence.rule.id = rule.id with
    | some first => withoutCycles cyclic first.rule
    | none => rule.material

/-- Adds a quantity to the total of its group, a negative one as zero. -/
def addTo (totals : GroupTotals) (group : String) (quantity : Float) : GroupTotals :=
  totals.insert group ((totals.get? group).getD 0.0 + Formula.larger 0.0 quantity)

/-- The totals per group, added from left to right. -/
def totalsOf (quantities : List (String × Float)) : GroupTotals :=
  quantities.foldl (fun totals entry => addTo totals entry.1 entry.2) .empty

/-- The first pass: each occurrence with its direct quantity. -/
def directQuantities (occurrences : List Occurrence) : Except Fault (List (Occurrence × Float)) :=
  occurrences.mapM fun occurrence => do
    return (occurrence,
      ← Formula.quantity occurrence.rule.base occurrence.rule.material occurrence.env none)

/-- The quantities of all rules of the selected packages. -/
def resolve (catalog : Catalog) (instances : List Instance) (globals : Environment) :
    Except Fault Resolution := do
  let selected := occurrences catalog instances globals
  let edges := referenceEdges selected
  let cyclic := ReferenceGraph.sorted (ReferenceGraph.cyclicEdges edges)
  let direct ← directQuantities selected
  let referenceTotals := totalsOf (direct.map fun (occurrence, q) => (occurrence.rule.group, q))
  let rules ← direct.mapM fun (occurrence, q) => do
    let formula := secondFormula selected edges cyclic occurrence.rule
    let final ← Formula.quantity occurrence.rule.base formula occurrence.env (some referenceTotals)
    return { occurrence with direct := q, quantity := final }
  return {
    rules
    referenceTotals
    groupTotals := totalsOf (rules.map fun rule => (rule.rule.group, rule.quantity))
    diagnostics := unknownPackages catalog instances ++
      cyclic.map fun (group, referenced) => .referenceCycle group referenced }

end Resolution

end WiringQuote
