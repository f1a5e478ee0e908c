import WiringQuote.Proofs.Formula.Accumulation
import WiringQuote.Proofs.Quantity.Reachability
import WiringQuote.Quantity.Resolution

/-!
# The two passes

`TwoPass` says what the quantities of a configuration are without the tables and the graph search
by which they are found: one rule per selected package and rule, a direct quantity without
references, the totals of the direct quantities, and a final quantity with those references that lie
on no cycle.

* `mem_referenceEdges_iff`: the reference graph of the selected rules.
* `secondFormula_eq`: with distinct rule ids each rule gets its own formula without cycles.
* `get?_totalsOf`: the total of a group is a sum from left to right.
* `resolve_twoPass`: what is resolved meets `TwoPass`.
-/

namespace WiringQuote.Resolution

open Fallible Formula ReferenceGraph

/-! ## Definition -/

/-- The rules of each instance of a known package, in order. -/
def selectedRules (catalog : Catalog) (instances : List Instance) : List (Instance × Rule) :=
  (instances.filter fun inst => (catalog.package? inst.packageId).isSome).flatMap fun inst =>
    (catalog.rulesOf inst.packageId).map fun rule => (inst, rule)

/-- Some rule of the group `g` has a reference to the group `h`. -/
def Refers (rules : List Rule) (g h : String) : Prop :=
  ∃ rule ∈ rules, rule.group = g ∧ ∃ factor, .reference h factor ∈ rule.material

/-- The sum, from left to right, of the quantities of a group with negative ones as zero. A group
without any quantity has no total. -/
def groupTotal (quantities : List (String × Float)) (group : String) : Option Float :=
  match quantities.filter fun entry => entry.1 = group with
  | [] => none
  | own => some (own.foldl (fun sum entry => sum + larger 0.0 entry.2) 0.0)

/-- What the quantities of a configuration are. -/
structure TwoPass (catalog : Catalog) (instances : List Instance) (globals : Environment)
    (r : Resolution) : Prop where
  /-- One rule for each selected one; parameters of the instance win over global ones. -/
  rules : List.Forall₂ (fun selected resolved =>
    resolved.instanceId = selected.1.id ∧ resolved.packageId = selected.1.packageId ∧
      resolved.rule = selected.2 ∧
      ∀ key, resolved.env.get? key = (selected.1.params.get? key).or (globals.get? key))
    (selectedRules catalog instances) r.rules
  /-- The first pass leaves every reference out. -/
  direct : ∀ x ∈ r.rules,
    Adds x.env (fun _ => 0.0) (fun _ => True) x.rule.base x.rule.material x.direct
  referenceTotals : ∀ group,
    r.referenceTotals.get? group = groupTotal (r.rules.map fun x => (x.rule.group, x.direct)) group
  /-- The second pass leaves out the references to a group that leads back to the own one. -/
  quantity : ∀ x ∈ r.rules,
    Adds x.env (fun h => (r.referenceTotals.get? h).getD 0.0)
      (fun h => Relation.ReflTransGen (Refers ((selectedRules catalog instances).map (·.2))) h
        x.rule.group)
      x.rule.base x.rule.material x.quantity
  groupTotals : ∀ group,
    r.groupTotals.get? group = groupTotal (r.rules.map fun x => (x.rule.group, x.quantity)) group

/-! ## Selected rules -/

/-- The occurrence of a selected rule. -/
def occurrenceOf (globals : Environment) (selected : Instance × Rule) : Occurrence :=
  ⟨selected.1.id, selected.1.packageId, selected.2, globals.overlay selected.1.params⟩

theorem occurrences_eq (catalog : Catalog) (instances : List Instance) (globals : Environment) :
    occurrences catalog instances globals =
      (selectedRules catalog instances).map (occurrenceOf globals) := by
  unfold occurrences selectedRules
  induction instances with
  | nil => rfl
  | cons inst rest ih =>
    rw [List.flatMap_cons, ih, List.filter_cons]
    split
    · rw [List.flatMap_cons, List.map_append, List.map_map]
      rfl
    · rfl

theorem mem_rules_of_selected {catalog : Catalog} {instances : List Instance}
    {selected : Instance × Rule} (present : selected ∈ selectedRules catalog instances) :
    selected.2 ∈ catalog.rules := by
  unfold selectedRules Catalog.rulesOf at present
  simp only [List.mem_flatMap, List.mem_map, List.mem_filter] at present
  obtain ⟨_, _, rule, ⟨listed, _⟩, rfl⟩ := present
  exact listed

theorem mem_rules_of_occurrence {catalog : Catalog} {instances : List Instance}
    {globals : Environment} {occurrence : Occurrence}
    (present : occurrence ∈ occurrences catalog instances globals) :
    occurrence.rule ∈ catalog.rules := by
  rw [occurrences_eq] at present
  obtain ⟨selected, chosen, rfl⟩ := List.mem_map.1 present
  exact mem_rules_of_selected chosen

theorem eq_of_ruleId {catalog : Catalog} (distinct : (catalog.rules.map (·.id)).Nodup)
    {first second : Rule} (inFirst : first ∈ catalog.rules) (inSecond : second ∈ catalog.rules)
    (same : first.id = second.id) : first = second :=
  List.inj_on_of_nodup_map distinct inFirst inSecond same

/-! ## References -/

/-- The edges of the reference graph are the references of the selected rules. -/
theorem mem_referenceEdges_iff {occurrences : List Occurrence} {g h : String} :
    (g, h) ∈ referenceEdges occurrences ↔ Refers (occurrences.map (·.rule)) g h := by
  unfold referenceEdges Refers
  simp only [List.mem_flatMap, List.mem_map, Prod.mk.injEq, mem_references_iff]
  constructor
  · rintro ⟨occurrence, present, _, refers, rfl, rfl⟩
    exact ⟨_, ⟨occurrence, present, rfl⟩, rfl, refers⟩
  · rintro ⟨_, ⟨occurrence, present, rfl⟩, rfl, refers⟩
    exact ⟨occurrence, present, h, refers, rfl, rfl⟩

theorem leads_iff {occurrences : List Occurrence} {g h : String} :
    Leads (referenceEdges occurrences) g h ↔
      Relation.ReflTransGen (Refers (occurrences.map (·.rule))) g h := by
  unfold Leads
  simp only [mem_referenceEdges_iff]

/-- With distinct rule ids each rule gets its own formula without cycles. -/
theorem secondFormula_eq {catalog : Catalog} (distinct : (catalog.rules.map (·.id)).Nodup)
    {occurrences : List Occurrence} (listed : ∀ o ∈ occurrences, o.rule ∈ catalog.rules)
    {occurrence : Occurrence} (present : occurrence ∈ occurrences) :
    secondFormula occurrences (referenceEdges occurrences)
      (sorted (cyclicEdges (referenceEdges occurrences))) occurrence.rule =
      withoutCycles (sorted (cyclicEdges (referenceEdges occurrences))) occurrence.rule := by
  unfold secondFormula
  -- The formulas are kept by rule id, and not at all where no rule has a reference.
  split
  · rename_i noEdges
    have none : sorted (cyclicEdges (referenceEdges occurrences)) = [] := by
      simp [List.isEmpty_iff.1 noEdges, sorted, cyclicEdges]
    rw [none]
    refine (List.filter_eq_self.2 fun entry _ => ?_).symm
    cases entry <;> rfl
  · split
    · rename_i first found
      have sameId : first.rule.id = occurrence.rule.id := by
        simpa using List.find?_some found
      rw [eq_of_ruleId distinct (listed first (List.mem_of_find?_eq_some found))
        (listed occurrence present) sameId]
    · rename_i missing
      exact absurd (List.find?_eq_none.1 missing occurrence present) (by simp)

/-- Taking the cyclic references out of a rule takes out those to a group that leads back. -/
theorem keeps_withoutCycles {occurrences : List Occurrence} {occurrence : Occurrence}
    (present : occurrence ∈ occurrences) :
    Keeps (fun entry => match entry with
        | .reference group _ => !(sorted (cyclicEdges (referenceEdges occurrences))).contains
            (occurrence.rule.group, group)
        | _ => true)
      (fun h => Relation.ReflTransGen (Refers (occurrences.map (·.rule))) h occurrence.rule.group)
      occurrence.rule.material := by
  intro entry inMaterial
  cases entry with
  | reference h factor =>
    have edge : (occurrence.rule.group, h) ∈ referenceEdges occurrences :=
      mem_referenceEdges_iff.2 ⟨_, List.mem_map.2 ⟨_, present, rfl⟩, rfl, factor, inMaterial⟩
    have cyclic : (occurrence.rule.group, h) ∈
          sorted (cyclicEdges (referenceEdges occurrences)) ↔
        Relation.ReflTransGen (Refers (occurrences.map (·.rule))) h occurrence.rule.group := by
      rw [mem_sorted_iff, mem_cyclicEdges_iff, leads_iff, and_iff_right edge]
    simp only [Bool.not_eq_true', ← Bool.not_eq_true, List.contains_iff_mem, cyclic]
  | lookup | product | floor => rfl

/-! ## Totals -/

theorem get?_addTo (totals : GroupTotals) (group other : String) (quantity : Float) :
    (addTo totals group quantity).get? other =
      if group = other then some ((totals.get? group).getD 0.0 + larger 0.0 quantity)
      else totals.get? other := by
  unfold addTo
  rw [OrderedMap.get?_insert]

/-- The total of a group is a sum from left to right. -/
theorem get?_totalsOf (quantities : List (String × Float)) (group : String) :
    (totalsOf quantities).get? group = groupTotal quantities group := by
  -- By induction on the quantities, so for any totals that are known already.
  have general : ∀ known : GroupTotals,
      (quantities.foldl (fun totals entry => addTo totals entry.1 entry.2) known).get? group =
        match quantities.filter fun entry => entry.1 = group with
        | [] => known.get? group
        | own => some (own.foldl (fun sum entry => sum + larger 0.0 entry.2)
            ((known.get? group).getD 0.0)) := by
    induction quantities with
    | nil => exact fun _ => rfl
    | cons entry rest ih =>
      intro known
      rw [List.foldl_cons, ih, get?_addTo, List.filter_cons]
      by_cases same : entry.1 = group
      · simp only [same, if_true, decide_true, Option.getD_some]
        -- The first own quantity starts the sum, whether or not others follow.
        cases rest.filter fun entry => decide (entry.1 = group) <;> rfl
      · simp only [same, if_false, decide_false, Bool.false_eq_true]
  have whole := general .empty
  unfold totalsOf groupTotal
  rw [whole]
  rfl

/-! ## Both passes -/

/-- What the second pass makes of an occurrence with its direct quantity. -/
def Completes (selected : List Occurrence) (totals : GroupTotals) (pair : Occurrence × Float)
    (x : ResolvedRule) : Prop :=
  x.toOccurrence = pair.1 ∧ x.direct = pair.2 ∧
    Formula.quantity x.rule.base (secondFormula selected (referenceEdges selected)
      (sorted (cyclicEdges (referenceEdges selected))) x.rule) x.env (some totals) = .ok x.quantity

theorem directQuantities_ok {occurrences : List Occurrence} {direct : List (Occurrence × Float)}
    (first : directQuantities occurrences = .ok direct) :
    occurrences = direct.map (·.1) ∧ ∀ pair ∈ direct,
      Formula.quantity pair.1.rule.base pair.1.rule.material pair.1.env none = .ok pair.2 := by
  unfold directQuantities at first
  rw [mapM_ok_iff] at first
  have each : List.Forall₂ (fun occurrence pair => occurrence = pair.1 ∧
      Formula.quantity pair.1.rule.base pair.1.rule.material pair.1.env none = .ok pair.2)
      occurrences direct := by
    refine first.imp fun occurrence pair one => ?_
    obtain ⟨q, summed, same⟩ := bind_ok_iff.1 one
    cases pure_ok_iff.1 same
    exact ⟨rfl, summed⟩
  refine ⟨?_, fun pair present => ?_⟩
  · simpa using map_eq_map_of_pairs (f := id) (each.imp fun _ _ one => one.1)
  · obtain ⟨_, _, one⟩ := exists_mem_of_pairs each present
    exact one.2

theorem mem_of_directQuantities {occurrences : List Occurrence} {direct : List (Occurrence × Float)}
    (first : directQuantities occurrences = .ok direct) {pair : Occurrence × Float}
    (listed : pair ∈ direct) : pair.1 ∈ occurrences := by
  rw [(directQuantities_ok first).1]
  exact List.mem_map_of_mem listed

/-- The passes of a resolution: the first from each occurrence alone, the second from the totals of
the first. -/
theorem resolve_passes {catalog : Catalog} {instances : List Instance} {globals : Environment}
    {r : Resolution} (resolved : resolve catalog instances globals = .ok r) :
    ∃ direct, directQuantities (occurrences catalog instances globals) = .ok direct ∧
      r.referenceTotals = totalsOf (direct.map fun pair => (pair.1.rule.group, pair.2)) ∧
      List.Forall₂ (Completes (occurrences catalog instances globals) r.referenceTotals)
        direct r.rules ∧
      r.groupTotals = totalsOf (r.rules.map fun x => (x.rule.group, x.quantity)) := by
  unfold resolve at resolved
  simp only [bind_ok_iff, pure_ok_iff] at resolved
  obtain ⟨direct, first, rules, second, rfl⟩ := resolved
  refine ⟨direct, first, rfl, ?_, rfl⟩
  rw [mapM_ok_iff] at second
  refine second.imp fun pair x one => ?_
  obtain ⟨q, finalized, same⟩ := bind_ok_iff.1 one
  cases pure_ok_iff.1 same
  exact ⟨rfl, rfl, finalized⟩

/-- What is resolved meets the definition of the two passes. -/
theorem resolve_twoPass {catalog : Catalog} {instances : List Instance} {globals : Environment}
    {r : Resolution} (distinct : (catalog.rules.map (·.id)).Nodup)
    (resolved : resolve catalog instances globals = .ok r) :
    TwoPass catalog instances globals r := by
  obtain ⟨direct, first, referenceTotals, second, groupTotals⟩ := resolve_passes resolved
  obtain ⟨own, summed⟩ := directQuantities_ok first
  have whole : occurrences catalog instances globals = r.rules.map (·.toOccurrence) := by
    rw [own]
    exact map_eq_map_of_pairs (second.imp fun _ _ one => one.1.symm)
  have rulesOf : (occurrences catalog instances globals).map (·.rule) =
      (selectedRules catalog instances).map (·.2) := by
    rw [occurrences_eq, List.map_map]
    rfl
  have present : ∀ x ∈ r.rules, x.toOccurrence ∈ occurrences catalog instances globals := by
    intro x resolvedX
    rw [whole]
    exact List.mem_map.2 ⟨x, resolvedX, rfl⟩
  refine ⟨?_, fun x resolvedX => ?_, fun group => ?_, fun x resolvedX => ?_, fun group => ?_⟩
  · have paired : List.Forall₂ (fun selected x => occurrenceOf globals selected = x.toOccurrence)
        (selectedRules catalog instances) r.rules := by
      have both := (occurrences_eq catalog instances globals).symm.trans whole
      rw [← List.forall₂_eq_eq_eq, List.forall₂_map_left_iff, List.forall₂_map_right_iff] at both
      exact both
    refine paired.imp fun selected x same => ?_
    rw [← same]
    exact ⟨rfl, rfl, rfl, OrderedMap.get?_overlay globals selected.1.params⟩
  · obtain ⟨pair, inDirect, same, directOf, _⟩ := exists_mem_of_pairs second resolvedX
    rw [directOf]
    rw [same]
    exact adds_of_direct (summed pair inDirect)
  · -- Both passes go through the same occurrences, so their pairs of group and quantity agree.
    have pairs : direct.map (fun pair => (pair.1.rule.group, pair.2)) =
        r.rules.map fun x => (x.rule.group, x.direct) := by
      refine map_eq_map_of_pairs (second.imp fun pair x one => ?_)
      rw [← one.1, ← one.2.1]
    rw [referenceTotals, pairs, get?_totalsOf]
  · obtain ⟨pair, inDirect, _, _, finalized⟩ := exists_mem_of_pairs second resolvedX
    rw [secondFormula_eq distinct (fun _ => mem_rules_of_occurrence) (present x resolvedX)] at finalized
    rw [← rulesOf]
    exact adds_of_kept (keeps_withoutCycles (present x resolvedX)) finalized
  · rw [groupTotals, get?_totalsOf]

/-! ## A catalog with a cycle -/

/-- Two groups that refer to each other, one of them also to a third. -/
def pairedGroups : Catalog where
  packages := .ofList [(1, ⟨1, "Circuit", none, none, none, false⟩)]
  rules := [
    ⟨1, 1, "breaker", 1.0, [.lookup "floor" [("2", 3.0)], .reference "cable" 0.5], [], .empty⟩,
    ⟨2, 1, "cable", 2.0, [.reference "breaker" 1.0, .reference "clip" 2.0], [], .empty⟩,
    ⟨3, 1, "clip", 0.0, [.product ["area"] 0.1], [], .empty⟩]
  products := []
  groups := .empty
  parameters := .empty
  links := []

/-- The package twice, and one that is unknown. -/
def pairedInstances : List Instance := [
  ⟨"1-0", .num (.int 1), .ofList [("floor", .str "2"), ("area", .num (.int 40))]⟩,
  ⟨"7-0", .num (.int 7), .empty⟩,
  ⟨"1-1", .num (.int 1), .ofList [("area", .num (.float (-3.0)))]⟩]

/-- Each instance and rule with the quantities of both passes. -/
def figuresOf (r : Resolution) : List (String × Int × Float × Float) :=
  r.rules.map fun x => (x.instanceId, x.rule.id, x.direct, x.quantity)

theorem pairedGroups_figures : (resolve pairedGroups pairedInstances .empty).toOption.map figuresOf =
    some [("1-0", 1, 4.0, 4.0), ("1-0", 2, 2.0, 10.0), ("1-0", 3, 4.0, 4.0), ("1-1", 1, 1.0, 1.0),
      ("1-1", 2, 2.0, 10.0), ("1-1", 3, -0.30000000000000004, -0.30000000000000004)] := by
  decide +kernel

theorem pairedGroups_totals : (resolve pairedGroups pairedInstances .empty).toOption.map (fun r =>
    (r.referenceTotals.entries, r.groupTotals.entries)) =
    some ([("breaker", 5.0), ("cable", 4.0), ("clip", 4.0)],
      [("breaker", 5.0), ("cable", 20.0), ("clip", 4.0)]) := by decide +kernel

/-- The two passes of the catalog with a cycle. The storey adds three breakers to the first circuit, and
only the clips that the cables refer to are counted for them. -/
theorem pairedGroups_twoPass : (pairedGroups.rules.map (·.id)).Nodup ∧
    ∃ r, resolve pairedGroups pairedInstances .empty = .ok r ∧
      figuresOf r = [("1-0", 1, 4.0, 4.0), ("1-0", 2, 2.0, 10.0), ("1-0", 3, 4.0, 4.0),
        ("1-1", 1, 1.0, 1.0), ("1-1", 2, 2.0, 10.0),
        ("1-1", 3, -0.30000000000000004, -0.30000000000000004)] ∧
      r.referenceTotals.entries = [("breaker", 5.0), ("cable", 4.0), ("clip", 4.0)] ∧
      r.groupTotals.entries = [("breaker", 5.0), ("cable", 20.0), ("clip", 4.0)] ∧
      TwoPass pairedGroups pairedInstances .empty r := by
  have distinct : (pairedGroups.rules.map (·.id)).Nodup := by decide
  obtain ⟨r, resolved, figures⟩ := toOption_map_eq_some_iff.1 pairedGroups_figures
  obtain ⟨_, again, totals⟩ := toOption_map_eq_some_iff.1 pairedGroups_totals
  obtain rfl := Except.ok.inj (resolved.symm.trans again)
  obtain ⟨referenceTotals, groupTotals⟩ := Prod.mk.inj totals
  exact ⟨distinct, r, resolved, figures, referenceTotals, groupTotals,
    resolve_twoPass distinct resolved⟩

end WiringQuote.Resolution
