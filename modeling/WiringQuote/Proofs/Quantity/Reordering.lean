import WiringQuote.Proofs.Decimal.Order
import WiringQuote.Proofs.Quantity.SharedIds

/-!
# Rules and packages in another order

The order of the rule rows and of the selected packages decides in which order rules are gone through
and quantities are added up. What does not depend on it: which references are cyclic and how they are
reported, whether there are quantities at all, and the direct quantity of every rule. The final
quantities depend on it through the totals that references read, and through nothing else.

* `ofRows_reordered`: rows in another order make the catalog with its rules in another order.
* `exists_resolution_iff`: there are quantities exactly if the first pass finds its own.
* `resolve_finalizes`: with distinct rule ids, what the second pass makes of a rule follows from the
  cyclic references and the totals.
* `resolve_reordered`: both orders compared.
-/

namespace WiringQuote

open Fallible

/-- Rows in another order make the catalog with its rules in another order. -/
theorem Catalog.ofRows_reordered {depth : Nat} {rows : Catalog.Rows} {items : List Value}
    {catalog : Catalog} (shuffled : rows.items.Perm items)
    (loaded : Catalog.ofRows depth rows = .ok catalog) :
    ∃ rules, Catalog.ofRows depth { rows with items } = .ok { catalog with rules } ∧
      catalog.rules.Perm rules := by
  unfold Catalog.ofRows at loaded ⊢
  obtain ⟨own, read, rest⟩ := bind_ok_iff.1 loaded
  obtain ⟨rules, readOthers, same⟩ := mapM_perm (shuffled.filterMap _) (mapError_ok_iff.1 read)
  dsimp only at rest ⊢
  rw [readOthers]
  split at rest
  · cases rest
  · rename_i complete
    cases rest
    exact ⟨rules, if_neg complete, same⟩

end WiringQuote

namespace WiringQuote.Resolution

open Decimal Fallible Formula ReferenceGraph

/-! ## What both orders have in common -/

section Occurrences

variable {catalog : Catalog} {rules : List Rule} {instances others : List Instance}
  {globals : Environment}

theorem occurrences_perm (reordered : catalog.rules.Perm rules) (shuffled : instances.Perm others) :
    (occurrences catalog instances globals).Perm
      (occurrences { catalog with rules } others globals) := by
  unfold occurrences
  refine shuffled.flatMap fun inst _ => ?_
  show (if (catalog.package? inst.packageId).isSome then _ else _ : List Occurrence).Perm
    (if (catalog.package? inst.packageId).isSome then _ else _)
  split
  · exact (reordered.filter _).map _
  · exact .nil

theorem mem_referenceEdges_congr {xs ys : List Occurrence} (same : xs.Perm ys) (edge : ReferenceEdge) :
    edge ∈ referenceEdges xs ↔ edge ∈ referenceEdges ys :=
  (same.flatMap fun _ _ => .refl _).mem_iff

/-- Which references are cyclic depends on what is referred to, not on the order. -/
theorem mem_cyclicEdges_congr {xs ys : List ReferenceEdge} (same : ∀ edge, edge ∈ xs ↔ edge ∈ ys)
    (edge : ReferenceEdge) : edge ∈ cyclicEdges xs ↔ edge ∈ cyclicEdges ys := by
  obtain ⟨a, b⟩ := edge
  rw [mem_cyclicEdges_iff, mem_cyclicEdges_iff]
  unfold Leads
  simp only [same]

/-- The reports on unknown packages and then on cyclic references. -/
theorem resolve_diagnostics {r : Resolution} (resolved : resolve catalog instances globals = .ok r) :
    r.diagnostics = unknownPackages catalog instances ++
      (sorted (cyclicEdges (referenceEdges (occurrences catalog instances globals)))).map fun edge =>
        .referenceCycle edge.1 edge.2 := by
  unfold resolve at resolved
  simp only [bind_ok_iff, pure_ok_iff] at resolved
  obtain ⟨_, _, _, _, rfl⟩ := resolved
  rfl

/-- The reports on cyclic references. -/
def cycleReports (r : Resolution) : List Diagnostic :=
  r.diagnostics.filter fun diagnostic => diagnostic.code = "GROUP_REF_CYCLE"

theorem cycleReports_eq {r : Resolution} (resolved : resolve catalog instances globals = .ok r) :
    r.cycleReports =
      (sorted (cyclicEdges (referenceEdges (occurrences catalog instances globals)))).map fun edge =>
        .referenceCycle edge.1 edge.2 := by
  unfold cycleReports
  rw [resolve_diagnostics resolved, List.filter_append]
  have unknown : (unknownPackages catalog instances).filter
      (fun diagnostic => diagnostic.code = "GROUP_REF_CYCLE") = [] := by
    rw [List.filter_eq_nil_iff]
    intro diagnostic listed
    obtain ⟨inst, _, rfl⟩ := List.mem_map.1 listed
    show ¬ decide ("UNKNOWN_PACKAGE" = "GROUP_REF_CYCLE") = true
    decide
  have cyclic : ∀ edges : List ReferenceEdge,
      (edges.map fun edge => Diagnostic.referenceCycle edge.1 edge.2).filter
        (fun diagnostic => diagnostic.code = "GROUP_REF_CYCLE") =
      edges.map fun edge => .referenceCycle edge.1 edge.2 := by
    intro edges
    rw [List.filter_eq_self]
    intro diagnostic listed
    obtain ⟨edge, _, rfl⟩ := List.mem_map.1 listed
    rfl
  rw [unknown, cyclic, List.nil_append]

end Occurrences

/-! ## The second pass -/

/-- What the second pass makes of an occurrence with its direct quantity, from the formula of its own
rule. -/
structure Finalizes (cyclic : List ReferenceEdge) (totals : GroupTotals) (pair : Occurrence × Float)
    (x : ResolvedRule) : Prop where
  own : x.toOccurrence = pair.1
  direct : x.direct = pair.2
  quantity : Formula.quantity x.rule.base (withoutCycles cyclic x.rule) x.env (some totals) =
    .ok x.quantity

section Finalizes

variable {cyclic : List ReferenceEdge} {totals : GroupTotals}

theorem Finalizes.congr {same : GroupTotals} {pair : Occurrence × Float} {x : ResolvedRule}
    (finalizes : Finalizes cyclic totals pair x) (equal : totals.Same same) :
    Finalizes cyclic same pair x :=
  { finalizes with quantity := (quantity_congr_totals equal).symm.trans finalizes.quantity }

theorem Finalizes.unique : Relator.RightUnique (Finalizes cyclic totals) := by
  rintro pair ⟨occurrence, direct, quantity⟩ ⟨other, again, final⟩ ⟨own, directOf, summed⟩
    ⟨ownOther, directOther, summedOther⟩
  dsimp only at own directOf ownOther directOther
  subst own directOf
  cases ownOther
  cases directOther
  cases summed.symm.trans summedOther
  rfl

theorem map_direct {direct : List (Occurrence × Float)} {rules : List ResolvedRule}
    (second : List.Forall₂ (Finalizes cyclic totals) direct rules) :
    rules.map (fun x => (x.toOccurrence, x.direct)) = direct := by
  have pairs : direct.map id = rules.map fun x => (x.toOccurrence, x.direct) :=
    map_eq_map_of_pairs (second.imp fun _ _ one => Prod.ext one.own.symm one.direct.symm)
  rw [← pairs, List.map_id]

end Finalizes

section Resolve

variable {catalog : Catalog} {instances : List Instance} {globals : Environment}

/-- With distinct rule ids, what the second pass makes of a rule follows from the cyclic references and
the totals. -/
theorem resolve_finalizes {r : Resolution} (distinct : (catalog.rules.map (·.id)).Nodup)
    (resolved : resolve catalog instances globals = .ok r) :
    ∃ direct, directQuantities (occurrences catalog instances globals) = .ok direct ∧
      r.referenceTotals = totalsOf (direct.map fun pair => (pair.1.rule.group, pair.2)) ∧
      List.Forall₂ (Finalizes
        (sorted (cyclicEdges (referenceEdges (occurrences catalog instances globals))))
        r.referenceTotals) direct r.rules := by
  obtain ⟨direct, first, referenceTotals, second, _⟩ := resolve_passes resolved
  have selected : ∀ pair ∈ direct, pair.1 ∈ occurrences catalog instances globals :=
    fun _ => mem_of_directQuantities first
  refine ⟨direct, first, referenceTotals, ?_⟩
  refine ((List.forall₂_and_left _ _).2 ⟨selected, second⟩).imp ?_
  rintro pair x ⟨present, own, directOf, finalized⟩
  rw [← own] at present
  rw [secondFormula_eq distinct (fun _ => mem_rules_of_occurrence) present] at finalized
  exact ⟨own, directOf, finalized⟩

/-- With distinct rule ids, there are quantities exactly if the first pass finds its own. -/
theorem exists_resolution_iff (distinct : (catalog.rules.map (·.id)).Nodup) :
    (∃ r, resolve catalog instances globals = .ok r) ↔
      ∃ direct, directQuantities (occurrences catalog instances globals) = .ok direct := by
  constructor
  · rintro ⟨r, resolved⟩
    obtain ⟨direct, first, _⟩ := resolve_passes resolved
    exact ⟨direct, first⟩
  · intro first
    refine bind_total first fun direct done => ?_
    refine bind_total (mapM_total fun pair listed => ?_) fun _ _ => ⟨_, rfl⟩
    have summed := (directQuantities_ok done).2 pair listed
    dsimp only
    rw [secondFormula_eq distinct (fun _ => mem_rules_of_occurrence)
      (mem_of_directQuantities done listed)]
    refine bind_total ?_ fun _ _ => ⟨_, rfl⟩
    exact quantity_total_of_direct _ ⟨_, summed⟩ fun _ kept => (List.mem_filter.1 kept).1

end Resolve

/-! ## Totals that count as equal -/

/-- There are totals of the same groups, and they count as equal. -/
def EqualTotals (a b : GroupTotals) : Prop :=
  ∀ group, (a.get? group == b.get? group) = true

theorem signBit_larger (q : Float) : signBit (larger 0.0 q) = false := by
  unfold larger
  split
  · rename_i above
    exact signBit_of_above above
  · decide +kernel

theorem signBit_totalsOf (quantities : List (String × Float)) :
    (totalsOf quantities).Each fun _ total => signBit total = false := by
  -- By induction on the quantities, from any totals without a minus sign.
  have general : ∀ known : GroupTotals, (known.Each fun _ total => signBit total = false) →
      (quantities.foldl (fun totals entry => addTo totals entry.1 entry.2) known).Each
        fun _ total => signBit total = false := by
    induction quantities with
    | nil => exact fun _ unsigned => unsigned
    | cons entry rest ih =>
      intro known unsigned
      refine ih _ (unsigned.insert (signBit_add ?_ (signBit_larger entry.2)))
      cases found : known.get? entry.1 with
      | none => decide +kernel
      | some total => exact unsigned _ _ found
  exact general .empty (OrderedMap.each_empty _)

/-- Totals that count as equal are the same: none of them is a zero with a minus sign. -/
theorem EqualTotals.same {xs ys : List (String × Float)}
    (equal : EqualTotals (totalsOf xs) (totalsOf ys)) : (totalsOf xs).Same (totalsOf ys) := by
  intro group
  have both := equal group
  cases first : (totalsOf xs).get? group with
  | none =>
    cases second : (totalsOf ys).get? group with
    | none => rfl
    | some q => rw [first, second] at both; cases both
  | some p =>
    cases second : (totalsOf ys).get? group with
    | none => rw [first, second] at both; cases both
    | some q =>
      rw [first, second] at both
      exact congrArg some
        (eq_of_beq (signBit_totalsOf xs _ _ first) (signBit_totalsOf ys _ _ second) both)

/-! ## Both orders compared -/

/-- With distinct rule ids, the rules and the packages can be gone through in any order: the same
references are cyclic and are reported alike, there are quantities in the one order if there are in the
other, and each occurrence sees the same values and has the same direct quantity. Where the totals of
the two orders count as equal, it has the same final quantity. -/
theorem resolve_reordered {catalog : Catalog} {rules : List Rule} {instances others : List Instance}
    {globals : Environment} (distinct : (catalog.rules.map (·.id)).Nodup)
    (reordered : catalog.rules.Perm rules) (shuffled : instances.Perm others) :
    (∀ edge, edge ∈ cyclicEdges (referenceEdges (occurrences catalog instances globals)) ↔
      edge ∈ cyclicEdges (referenceEdges (occurrences { catalog with rules } others globals))) ∧
    ((∃ r, resolve catalog instances globals = .ok r) ↔
      ∃ s, resolve { catalog with rules } others globals = .ok s) ∧
    ∀ r s, resolve catalog instances globals = .ok r →
      resolve { catalog with rules } others globals = .ok s →
      r.cycleReports = s.cycleReports ∧
      (r.rules.map fun x => (x.toOccurrence, x.direct)).Perm
        (s.rules.map fun x => (x.toOccurrence, x.direct)) ∧
      (EqualTotals r.referenceTotals s.referenceTotals → r.rules.Perm s.rules) := by
  have selected : (occurrences catalog instances globals).Perm
      (occurrences { catalog with rules } others globals) := occurrences_perm reordered shuffled
  have distinctOthers : (rules.map (·.id)).Nodup := (reordered.map _).nodup_iff.1 distinct
  have cyclic := mem_cyclicEdges_congr (mem_referenceEdges_congr selected)
  refine ⟨cyclic, ?_, fun r s resolved resolvedOthers => ?_⟩
  · rw [exists_resolution_iff distinct, exists_resolution_iff distinctOthers]
    constructor
    · rintro ⟨direct, first⟩
      obtain ⟨others, second, _⟩ := mapM_perm selected first
      exact ⟨others, second⟩
    · rintro ⟨direct, first⟩
      obtain ⟨others, second, _⟩ := mapM_perm selected.symm first
      exact ⟨others, second⟩
  · obtain ⟨direct, first, totals, finals⟩ := resolve_finalizes distinct resolved
    obtain ⟨directOthers, firstOthers, totalsOthers, finalsOthers⟩ :=
      resolve_finalizes distinctOthers resolvedOthers
    obtain ⟨again, known, pairs⟩ := mapM_perm selected first
    cases known.symm.trans firstOthers
    refine ⟨?_, ?_, fun equal => ?_⟩
    · rw [cycleReports_eq resolved, cycleReports_eq resolvedOthers, sorted_congr cyclic]
    · rw [map_direct finals, map_direct finalsOthers]
      exact pairs
    · rw [totals, totalsOthers] at equal
      have same := equal.same
      rw [← totals, ← totalsOthers] at same
      -- The second pass of the one order, gone through in the other.
      obtain ⟨finalRules, inOrder, permuted⟩ := List.perm_comp_forall₂ pairs.symm finals
      rw [sorted_congr cyclic] at inOrder
      have unique := List.right_unique_forall₂' Finalizes.unique
        (inOrder.imp fun _ _ final => final.congr same) finalsOthers
      rw [← unique]
      exact permuted.symm

/-- The catalog with a cycle, its last rule first. -/
def reversedGroups : Catalog := { pairedGroups with rules := pairedGroups.rules.reverse }

theorem pairedGroups_reports : (resolve pairedGroups pairedInstances .empty).toOption.map (fun r =>
    r.cycleReports.map Diagnostic.message) =
    some ["Group reference breaker -> cable is part of a cycle; term ignored",
      "Group reference cable -> breaker is part of a cycle; term ignored"] := by decide +kernel

theorem reversedGroups_figures :
    (resolve reversedGroups pairedInstances.reverse .empty).toOption.map figuresOf =
    some [("1-1", 3, -0.30000000000000004, -0.30000000000000004), ("1-1", 2, 2.0, 10.0),
      ("1-1", 1, 1.0, 1.0), ("1-0", 3, 4.0, 4.0), ("1-0", 2, 2.0, 10.0), ("1-0", 1, 4.0, 4.0)] := by
  decide +kernel

theorem reversedGroups_totals :
    (resolve reversedGroups pairedInstances.reverse .empty).toOption.map (·.referenceTotals.entries) =
    some [("clip", 4.0), ("cable", 4.0), ("breaker", 5.0)] := by decide +kernel

/-- With the last rule and the last package first the same references are reported, and each circuit
needs as much of each group. -/
theorem pairedGroups_reversed : ∃ r s, resolve pairedGroups pairedInstances .empty = .ok r ∧
    resolve reversedGroups pairedInstances.reverse .empty = .ok s ∧
    figuresOf r = [("1-0", 1, 4.0, 4.0), ("1-0", 2, 2.0, 10.0), ("1-0", 3, 4.0, 4.0),
      ("1-1", 1, 1.0, 1.0), ("1-1", 2, 2.0, 10.0),
      ("1-1", 3, -0.30000000000000004, -0.30000000000000004)] ∧
    figuresOf s = (figuresOf r).reverse ∧
    r.cycleReports.map Diagnostic.message =
      ["Group reference breaker -> cable is part of a cycle; term ignored",
        "Group reference cable -> breaker is part of a cycle; term ignored"] ∧
    r.cycleReports = s.cycleReports ∧ r.rules.Perm s.rules := by
  obtain ⟨r, resolved, figures⟩ := toOption_map_eq_some_iff.1 pairedGroups_figures
  obtain ⟨_, again, totals⟩ := toOption_map_eq_some_iff.1 pairedGroups_totals
  obtain rfl := Except.ok.inj (resolved.symm.trans again)
  obtain ⟨_, again, messages⟩ := toOption_map_eq_some_iff.1 pairedGroups_reports
  obtain rfl := Except.ok.inj (resolved.symm.trans again)
  obtain ⟨s, resolvedOthers, figuresOthers⟩ := toOption_map_eq_some_iff.1 reversedGroups_figures
  obtain ⟨_, again, entriesOthers⟩ := toOption_map_eq_some_iff.1 reversedGroups_totals
  obtain rfl := Except.ok.inj (resolvedOthers.symm.trans again)
  have entries := (Prod.mk.inj totals).1
  have equal : EqualTotals r.referenceTotals s.referenceTotals := by
    intro group
    unfold OrderedMap.get?
    rw [entries, entriesOthers]
    by_cases breaker : group = "breaker"
    · subst breaker
      decide +kernel
    by_cases cable : group = "cable"
    · subst cable
      decide +kernel
    by_cases clip : group = "clip"
    · subst clip
      decide +kernel
    simp [OrderedMap.lookup, Ne.symm breaker, Ne.symm cable, Ne.symm clip]
  obtain ⟨reports, _, finals⟩ := (resolve_reordered (by decide) (List.reverse_perm _).symm
    (List.reverse_perm _).symm).2.2 r s resolved resolvedOthers
  have reversed : figuresOf s = (figuresOf r).reverse := by
    rw [figures, figuresOthers]
    rfl
  exact ⟨r, s, resolved, resolvedOthers, figures, reversed, messages, reports, finals equal⟩

end WiringQuote.Resolution
