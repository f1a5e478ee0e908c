import WiringQuote.LineItem.Build
import WiringQuote.Proofs.Fallible
import WiringQuote.Proofs.OrderedMap

/-!
# Parameters by value

Quantities and rows depend on the values of parameters, not on the order in which they are kept:

* `quantity_congr`, `multiplier_congr`: a formula reads an environment by key only.
* `resolve_alike`: instances and global parameters with the same values have the same quantities.
* `build_congr`: such quantities make the same rows.
-/

namespace WiringQuote

open Fallible

/-! ## Formulas -/

namespace Formula

variable {env other : Environment}

theorem productOf_congr (same : env.Same other) (params : List String) (acc : Float) :
    productOf env params acc = productOf other params acc := by
  induction params generalizing acc with
  | nil => rfl
  | cons name rest ih =>
    unfold productOf
    rw [same name]
    simp only [ih]

theorem contribution_congr (same : env.Same other) (entry : Entry) (totals : Option GroupTotals) :
    entry.contribution env totals = entry.contribution other totals := by
  cases entry with
  | lookup param table =>
    simp only [Entry.contribution]
    rw [same param]
  | product params coefficient => exact productOf_congr same params coefficient
  | reference | floor => rfl

theorem quantity_congr (same : env.Same other) (base : Float) (formula : Formula)
    (totals : Option GroupTotals) :
    quantity base formula env totals = quantity base formula other totals := by
  unfold quantity
  simp only [contribution_congr same]

theorem multiplier_congr (same : env.Same other) (formula : Formula) :
    multiplier formula env = multiplier formula other := by
  unfold multiplier
  rw [quantity_congr same]

end Formula

/-! ## Quantities -/

/-- The same selected package with the same values of its parameters. -/
structure Instance.Agrees (a b : Instance) : Prop where
  id : a.id = b.id
  packageId : a.packageId = b.packageId
  params : a.params.Same b.params

/-- The same rule of the same selected package, under the same values. -/
structure Occurrence.Agrees (a b : Occurrence) : Prop where
  instanceId : a.instanceId = b.instanceId
  packageId : a.packageId = b.packageId
  rule : a.rule = b.rule
  env : a.env.Same b.env

/-- The same rule with the same quantities. -/
structure ResolvedRule.Agrees (a b : ResolvedRule) : Prop
    extends Occurrence.Agrees a.toOccurrence b.toOccurrence where
  direct : a.direct = b.direct
  quantity : a.quantity = b.quantity

/-- The same quantities of the same rules. -/
structure Resolution.Agrees (a b : Resolution) : Prop where
  rules : List.Forall₂ ResolvedRule.Agrees a.rules b.rules
  diagnostics : a.diagnostics = b.diagnostics

namespace Resolution

variable {catalog : Catalog} {instances others : List Instance} {globals own : Environment}

theorem overlay_same {a b c d : Environment} (first : a.Same b) (second : c.Same d) :
    (a.overlay c).Same (b.overlay d) := by
  intro key
  rw [OrderedMap.get?_overlay, OrderedMap.get?_overlay, first key, second key]

theorem occurrences_agree (catalog : Catalog) (same : globals.Same own)
    (agree : List.Forall₂ Instance.Agrees instances others) :
    List.Forall₂ Occurrence.Agrees (occurrences catalog instances globals)
      (occurrences catalog others own) := by
  unfold occurrences
  induction agree with
  | nil => exact .nil
  | cons pair _ ih =>
    rename_i a b _ _ _
    rw [List.flatMap_cons, List.flatMap_cons]
    refine List.rel_append ?_ ih
    rw [pair.packageId]
    split
    · rw [List.forall₂_map_left_iff, List.forall₂_map_right_iff, List.forall₂_same]
      exact fun rule _ => ⟨pair.id, rfl, rfl, overlay_same same pair.params⟩
    · exact .nil

theorem unknownPackages_congr (agree : List.Forall₂ Instance.Agrees instances others) :
    unknownPackages catalog instances = unknownPackages catalog others := by
  unfold unknownPackages
  induction agree with
  | nil => rfl
  | cons pair _ ih =>
    rename_i a b _ _ _
    rw [List.filter_cons, List.filter_cons, pair.packageId]
    split
    · rw [List.map_cons, List.map_cons, ih, pair.id, pair.packageId]
    · exact ih

/-- The reference graph depends on the rules only. -/
theorem referenceEdges_congr {xs ys : List Occurrence}
    (rules : xs.map (·.rule) = ys.map (·.rule)) : referenceEdges xs = referenceEdges ys := by
  have byRule : ∀ zs : List Occurrence, referenceEdges zs =
      (zs.map (·.rule)).flatMap fun rule => rule.material.references.keys.map fun group =>
        (rule.group, group) := by
    intro zs
    unfold referenceEdges
    rw [List.flatMap_map]
  rw [byRule, byRule, rules]

theorem secondFormula_congr {xs ys : List Occurrence} (edges cyclic : List ReferenceEdge)
    (rules : xs.map (·.rule) = ys.map (·.rule)) (rule : Rule) :
    secondFormula xs edges cyclic rule = secondFormula ys edges cyclic rule := by
  -- Formulas are found by the ids of rules, so the occurrences matter by their rules only.
  have byRule : ∀ zs : List Occurrence, secondFormula zs edges cyclic rule =
      if edges.isEmpty then rule.material
      else (((zs.map (·.rule)).find? fun other => other.id = rule.id).map
        (withoutCycles cyclic)).getD rule.material := by
    intro zs
    unfold secondFormula
    rw [List.find?_map]
    split
    · rfl
    · simp only [Function.comp_def]
      split
      · rename_i first found
        rw [found]
        rfl
      · rename_i missing
        rw [missing]
        rfl
  rw [byRule, byRule, rules]

/-- The same occurrence with the same direct quantity. -/
def SameDirect (a b : Occurrence × Float) : Prop := a.1.Agrees b.1 ∧ a.2 = b.2

theorem directQuantities_alike {xs ys : List Occurrence}
    (agree : List.Forall₂ Occurrence.Agrees xs ys) :
    Alike (List.Forall₂ SameDirect) (directQuantities xs) (directQuantities ys) := by
  unfold directQuantities
  refine Alike.mapM agree fun a b pair => ?_
  rw [pair.rule, Formula.quantity_congr pair.env]
  exact (Alike.of_eq rfl).bind fun p q same => .ok ⟨pair, same⟩

/-- Instances and global parameters with the same values have the same quantities. -/
theorem resolve_alike (catalog : Catalog) (same : globals.Same own)
    (agree : List.Forall₂ Instance.Agrees instances others) :
    Alike Agrees (resolve catalog instances globals) (resolve catalog others own) := by
  have selected := occurrences_agree catalog same agree
  have rules : (occurrences catalog instances globals).map (·.rule) =
      (occurrences catalog others own).map (·.rule) :=
    map_eq_map_of_pairs (selected.imp fun _ _ o => o.rule)
  unfold resolve
  dsimp only
  rw [referenceEdges_congr rules, unknownPackages_congr agree]
  refine (directQuantities_alike selected).bind fun direct others pairs => ?_
  have totals : direct.map (fun pair => (pair.1.rule.group, pair.2)) =
      others.map fun pair => (pair.1.rule.group, pair.2) :=
    map_eq_map_of_pairs (pairs.imp fun a b pair => by rw [pair.1.rule, pair.2])
  rw [totals]
  refine Alike.bind (?_ : Alike (List.Forall₂ ResolvedRule.Agrees) _ _) ?_
  · refine Alike.mapM pairs ?_
    rintro ⟨a, _⟩ ⟨b, q⟩ ⟨pair, rfl⟩
    dsimp only
    rw [pair.rule, secondFormula_congr _ _ rules, Formula.quantity_congr pair.env]
    exact (Alike.of_eq rfl).bind fun x y same => .ok ⟨pair, rfl, same⟩
  · intro xs ys resolved
    exact .ok ⟨resolved, rfl⟩

end Resolution

/-! ## Rows -/

namespace LineItem

variable {catalog : Catalog} {preference : Preference}

theorem addRule_congr {a b : ResolvedRule} (agree : a.Agrees b) (sheet : Sheet) :
    addRule catalog preference sheet a = addRule catalog preference sheet b := by
  unfold addRule counts ofRule
  rw [agree.rule, agree.quantity, agree.packageId, agree.instanceId,
    Formula.multiplier_congr agree.env]

/-- Quantities that agree make the same rows. -/
theorem build_congr {r s : Resolution} (agree : r.Agrees s) :
    build catalog preference r = build catalog preference s := by
  unfold build
  refine Alike.eq (Alike.foldlM agree.rules (fun a b pair c d same => ?_) rfl)
  subst same
  exact Alike.of_eq (addRule_congr pair c)

end LineItem

end WiringQuote
