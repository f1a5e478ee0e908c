import WiringQuote.Proofs.Grouping
import WiringQuote.Proofs.LineItem.Identity

/-!
# No rule is lost or counted twice

What becomes of a resolved rule depends on that rule alone: it is left out, reported, or put in a row.
The rows and the diagnostics hold what the rules make, each of it once, however rules that are left out
and rows that are merged follow one another.

* `Meets.unique`: exactly one thing becomes of a rule.
* `build_diagnostics`: each rule without a product is reported, in order, and nothing else is.
* `Sheet.Tallies.ruleIds_perm`, `Sheet.Tallies.quantities`: the rows together have the rules and the
  units of all choices.
* `build_conserves`: these together.
-/

namespace WiringQuote

open Decimal Fallible

namespace LineItem

/-! ## What becomes of a rule -/

/-- What becomes of a resolved rule.

* `derived`: it is left to the protection rows.
* `idle`: nothing is needed of it.
* `unserved`: it is reported.
* `served`: it makes a row of a product. -/
inductive Fate where
  | derived
  | idle
  | unserved
  | served (product : Product)

/-- When what becomes of a rule. That nothing is needed is asked of other groups only. -/
inductive Meets (catalog : Catalog) (preference : Preference) (resolved : ResolvedRule) : Fate → Prop
  | derived : resolved.rule.group ∈ ProductGroups.protection →
      Meets catalog preference resolved .derived
  | idle : resolved.rule.group ∉ ProductGroups.protection → resolved.quantity ≤ 0 →
      Meets catalog preference resolved .idle
  | unserved : resolved.rule.group ∉ ProductGroups.protection → ¬ resolved.quantity ≤ 0 →
      selected? catalog preference resolved = none → Meets catalog preference resolved .unserved
  | served {product : Product} : resolved.rule.group ∉ ProductGroups.protection →
      ¬ resolved.quantity ≤ 0 → selected? catalog preference resolved = some product →
      Meets catalog preference resolved (.served product)

section Fate

variable {catalog : Catalog} {preference : Preference} {resolved : ResolvedRule}

theorem meets_served_iff {product : Product} : Meets catalog preference resolved (.served product) ↔
    selected? catalog preference resolved = some product := by
  constructor
  · rintro ⟨⟩
    assumption
  · intro selected
    obtain ⟨other, above⟩ := counts_iff.1 (counts_of_selected selected)
    exact .served other above selected

theorem meets_unserved_iff : Meets catalog preference resolved .unserved ↔
    unserved catalog preference resolved = true := by
  unfold unserved
  rw [Bool.and_eq_true, counts_iff, Option.isNone_iff_eq_none]
  constructor
  · rintro ⟨⟩
    exact ⟨⟨by assumption, by assumption⟩, by assumption⟩
  · rintro ⟨⟨other, above⟩, missing⟩
    exact .unserved other above missing

theorem exists_meets (catalog : Catalog) (preference : Preference) (resolved : ResolvedRule) :
    ∃ fate, Meets catalog preference resolved fate := by
  by_cases derived : resolved.rule.group ∈ ProductGroups.protection
  · exact ⟨_, .derived derived⟩
  · by_cases idle : resolved.quantity ≤ 0
    · exact ⟨_, .idle derived idle⟩
    · cases selected : selected? catalog preference resolved with
      | none => exact ⟨_, .unserved derived idle selected⟩
      | some product => exact ⟨_, .served derived idle selected⟩

theorem Meets.unique {first second : Fate} (one : Meets catalog preference resolved first)
    (other : Meets catalog preference resolved second) : first = second := by
  cases one <;> cases other <;> simp_all

/-- The choices are the rules that make a row, in order. -/
theorem map_resolved_choices (rules : List ResolvedRule) :
    (choices catalog preference rules).map (·.resolved) =
      rules.filter fun resolved => (selected? catalog preference resolved).isSome :=
  Grouping.map_filterMap_pair (fun _ _ => rfl) rules

theorem mem_choices_iff {rules : List ResolvedRule} {choice : Choice} :
    choice ∈ choices catalog preference rules ↔
      choice.resolved ∈ rules ∧ Meets catalog preference choice.resolved (.served choice.product) := by
  unfold choices
  rw [meets_served_iff, List.mem_filterMap]
  constructor
  · rintro ⟨resolved, listed, made⟩
    obtain ⟨product, selected, rfl⟩ := Option.map_eq_some_iff.1 made
    exact ⟨listed, selected⟩
  · rintro ⟨listed, selected⟩
    exact ⟨choice.resolved, listed, Option.map_eq_some_iff.2 ⟨choice.product, selected, rfl⟩⟩

end Fate

/-! ## What is reported -/

theorem Sheet.add_diagnostics {sheet next : Sheet} {item : LineItem}
    (added : sheet.add item = .ok next) : next.diagnostics = sheet.diagnostics := by
  rcases Sheet.add_ok added with ⟨_, rfl⟩ | ⟨_, _, _, _, rfl⟩ <;> rfl

theorem addRule_diagnostics {catalog : Catalog} {preference : Preference} {sheet next : Sheet}
    {resolved : ResolvedRule} (added : addRule catalog preference sheet resolved = .ok next) :
    next.diagnostics = sheet.diagnostics ++
      ([resolved].filter (unserved catalog preference)).map missing := by
  cases selected : selected? catalog preference resolved with
  | some product =>
    rw [addRule_eq_of_selected sheet selected] at added
    obtain ⟨row, _, put⟩ := bind_ok_iff.1 added
    simp [Sheet.add_diagnostics put, unserved, selected]
  | none =>
    rw [addRule_eq_of_not_selected sheet selected] at added
    cases added
    rw [List.filter_cons]
    split
    · rfl
    · rw [List.filter_nil, List.map_nil, List.append_nil]

/-- Each rule without a product is reported, in order, and nothing else is. -/
theorem build_diagnostics {catalog : Catalog} {preference : Preference} {resolution : Resolution}
    {sheet : Sheet} (built : build catalog preference resolution = .ok sheet) :
    sheet.diagnostics = (resolution.rules.filter (unserved catalog preference)).map missing := by
  refine foldlM_prefix (p := fun rules sheet => Sheet.diagnostics sheet =
    (rules.filter (unserved catalog preference)).map missing) built rfl ?_
  intro rules resolved sheet next _ reported added
  rw [addRule_diagnostics added, reported, List.filter_append, List.map_append]

/-! ## What is in the rows -/

section Rows

variable {sheet : Sheet} {chosen : List Choice}

/-- The choices of all rows, row by row, are the choices. -/
theorem Sheet.Tallies.choices_perm (tallies : sheet.Tallies chosen) :
    (sheet.rows.values.flatMap fun row => chosen.filter fun choice => choice.rowId = row.id).Perm
      chosen :=
  Grouping.flatMap_values_perm tallies.keyed tallies.covers

/-- The rows together have the rules of all choices, each once. -/
theorem Sheet.Tallies.ruleIds_perm (tallies : sheet.Tallies chosen) :
    (sheet.rows.values.flatMap (·.ruleIds)).Perm (chosen.map (·.resolved.rule.id)) := by
  have each : sheet.rows.values.flatMap (·.ruleIds) = (sheet.rows.values.flatMap fun row =>
      chosen.filter fun choice => choice.rowId = row.id).map (·.resolved.rule.id) := by
    rw [List.map_flatMap]
    exact List.flatMap_congr fun row present => (tallies.holds_own present).ruleIds
  rw [each]
  exact tallies.choices_perm.map _

/-- Rows that hold some choices each have, together, the units of these choices. -/
theorem exists_amounts {rows : List LineItem} {held : LineItem → List Choice}
    (holds : ∀ row ∈ rows, row.Holds (held row)) : ∃ amounts units : List Int,
      rows.map (·.quantity) = amounts.map Number.int ∧
      (rows.flatMap held).mapM (fun choice => roundQuantity (.float choice.resolved.quantity)) =
        .ok units ∧ amounts.sum = units.sum := by
  induction rows with
  | nil => exact ⟨[], [], rfl, rfl, rfl⟩
  | cons row rest ih =>
    obtain ⟨amounts, units, quantities, rounded, sum⟩ :=
      ih fun other listed => holds other (List.mem_cons_of_mem _ listed)
    obtain ⟨own, roundedOwn, quantity⟩ := (holds row List.mem_cons_self).quantity
    rw [mapM_ok_iff] at rounded roundedOwn
    refine ⟨own.sum :: amounts, own ++ units, ?_, ?_, ?_⟩
    · rw [List.map_cons, List.map_cons, quantity, quantities]
    · rw [List.flatMap_cons, mapM_ok_iff]
      exact List.rel_append roundedOwn rounded
    · rw [List.sum_cons, List.sum_append, sum]

/-- The rows together have the rounded quantities of all choices. -/
theorem Sheet.Tallies.quantities (tallies : sheet.Tallies chosen) : ∃ amounts units : List Int,
    sheet.rows.values.map (·.quantity) = amounts.map Number.int ∧
      chosen.mapM (fun choice => roundQuantity (.float choice.resolved.quantity)) = .ok units ∧
      amounts.sum = units.sum := by
  obtain ⟨amounts, byRow, quantities, rounded, sum⟩ :=
    exists_amounts fun row present => tallies.holds_own present
  obtain ⟨units, roundedAll, same⟩ := mapM_perm tallies.choices_perm rounded
  exact ⟨amounts, units, quantities, roundedAll, sum.trans same.sum_eq⟩

end Rows

/-! ## Together -/

/-- Exactly one thing becomes of each rule. Those without a product are reported, and those with one are
the choices: each belongs to exactly one row, a row has the rules of its choices, all rows together have
the rules of all choices, each once, and their units together are those of all choices. -/
theorem build_conserves {catalog : Catalog} {preference : Preference} {resolution : Resolution}
    {sheet : Sheet} (built : build catalog preference resolution = .ok sheet) :
    (∀ resolved ∈ resolution.rules, ∃! fate, Meets catalog preference resolved fate) ∧
    (sheet.diagnostics = (resolution.rules.filter (unserved catalog preference)).map missing ∧
      ∀ resolved, unserved catalog preference resolved = true ↔
        Meets catalog preference resolved .unserved) ∧
    ((choices catalog preference resolution.rules).map (·.resolved) =
        resolution.rules.filter (fun resolved => (selected? catalog preference resolved).isSome) ∧
      ∀ choice ∈ choices catalog preference resolution.rules,
        Meets catalog preference choice.resolved (.served choice.product)) ∧
    (∀ choice ∈ choices catalog preference resolution.rules,
      ∃! row, row ∈ sheet.rows.values ∧ row.id = choice.rowId) ∧
    (∀ row ∈ sheet.rows.values, row.ruleIds =
      ((choices catalog preference resolution.rules).filter fun choice =>
        choice.rowId = row.id).map (·.resolved.rule.id)) ∧
    (sheet.rows.values.flatMap (·.ruleIds)).Perm
      ((choices catalog preference resolution.rules).map (·.resolved.rule.id)) ∧
    ∃ amounts units : List Int, sheet.rows.values.map (·.quantity) = amounts.map Number.int ∧
      (choices catalog preference resolution.rules).mapM
        (fun choice => roundQuantity (.float choice.resolved.quantity)) = .ok units ∧
      amounts.sum = units.sum := by
  have tallies := build_tallies built
  refine ⟨fun resolved _ => ?_, ⟨build_diagnostics built, fun _ => meets_unserved_iff.symm⟩,
    ⟨map_resolved_choices _, fun choice asked => (mem_choices_iff.1 asked).2⟩, fun choice asked => ?_,
    fun row present => (tallies.holds_own present).ruleIds, tallies.ruleIds_perm, tallies.quantities⟩
  · obtain ⟨fate, meets⟩ := exists_meets catalog preference resolved
    exact ⟨fate, meets, fun other same => same.unique meets⟩
  · obtain ⟨row, present, own⟩ := tallies.exists_row asked
    refine ⟨row, ⟨present, own⟩, fun other same => ?_⟩
    exact List.inj_on_of_nodup_map tallies.keyed.nodup same.1 present (same.2.trans own.symm)

/-- A rule of this group with this quantity, and with this product selected for it. -/
def resolvedRule (id : Int) (group : String) (quantity : Float) (product : Option String) :
    ResolvedRule :=
  ⟨⟨"1-00000001", .num (.int 1), ⟨id, 1, group, quantity, [], [], ⟨[], product⟩⟩, .empty⟩, quantity,
    quantity⟩

/-- Rules with each of the four fates, and two that are merged although others stand between them. -/
def mixedRules : Resolution where
  rules := [resolvedRule 1 "lamps" 1.5 (some "c"), resolvedRule 2 "GRP-MCB-B16" 4.0 none,
    resolvedRule 3 "sockets" 0.0 (some "b-c"), resolvedRule 4 "fans" 2.0 none,
    resolvedRule 5 "lamps" 3.0 (some "c"), resolvedRule 6 "sockets" 0.25 (some "b-c")]
  referenceTotals := .empty
  groupTotals := .empty
  diagnostics := []

theorem mixedRules_rows : (build dashedProducts anywhere mixedRules).toOption.map (fun sheet =>
    (sheet.rows.values.map (·.ruleIds), sheet.rows.values.map (·.quantity),
      sheet.diagnostics.map Diagnostic.message)) =
    some ([[1, 5], [6]], [.int 5, .int 1],
      ["No product for group fans (rule 4) at any quality level"]) := by
  decide +kernel

/-- The two rules of one row are merged, and one rule is reported. -/
theorem mixedRules_conserved : ∃ sheet, build dashedProducts anywhere mixedRules = .ok sheet ∧
    sheet.rows.values.map (·.ruleIds) = [[1, 5], [6]] ∧
    sheet.diagnostics.map Diagnostic.message =
      ["No product for group fans (rule 4) at any quality level"] ∧
    (∀ resolved ∈ mixedRules.rules, ∃! fate, Meets dashedProducts anywhere resolved fate) ∧
    [1, 5, 6].Perm ((choices dashedProducts anywhere mixedRules.rules).map (·.resolved.rule.id)) := by
  obtain ⟨sheet, built, facts⟩ := toOption_map_eq_some_iff.1 mixedRules_rows
  obtain ⟨ruleIds, facts⟩ := Prod.mk.inj facts
  obtain ⟨_, reported⟩ := Prod.mk.inj facts
  obtain ⟨fates, _, _, _, _, all, _⟩ := build_conserves built
  rw [List.flatMap_def, ruleIds] at all
  exact ⟨sheet, built, ruleIds, reported, fates, all⟩

end LineItem

end WiringQuote
