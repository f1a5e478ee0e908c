import WiringQuote.Proofs.Catalog.InRange
import WiringQuote.Proofs.Quantity.TwoPass

/-!
# Quantities are always found

Formulas are evaluated in binary64, which has a result for every operation; only the values of the
parameters have to be converted. With values in range both passes succeed, whatever numbers they yield.

* `Formula.quantity_total`, `Formula.multiplier_total`: a formula has a value.
* `Resolution.resolve_total`: a configuration has quantities, and its rules see values in range.
-/

namespace WiringQuote

open Decimal Fallible

/-- The values are in range. -/
def Environment.InRange (env : Environment) : Prop := env.Each fun _ value => value.InRange

/-! ## Formulas -/

namespace Formula

variable {env : Environment}

theorem factor?_total {value : Option Value} (inRange : ∀ v, value = some v → v.InRange) :
    ∃ x, factor? value = .ok x := by
  cases value with
  | none => exact ⟨none, rfl⟩
  | some v =>
    cases v with
    | num n =>
      cases n with
      | int n => exact bind_total (inRange _ rfl n rfl) fun _ _ => ⟨_, rfl⟩
      | float x => exact ⟨_, rfl⟩
    | null | bool | str | list | obj => exact ⟨_, rfl⟩

theorem productOf_total (inRange : env.InRange) (params : List String) (acc : Float) :
    ∃ x, productOf env params acc = .ok x := by
  induction params generalizing acc with
  | nil => exact ⟨acc, rfl⟩
  | cons name rest ih =>
    obtain ⟨factor, known⟩ := factor?_total (inRange name)
    unfold productOf
    rw [known]
    cases factor with
    | none => exact ⟨0.0, rfl⟩
    | some x => exact ih (acc * x)

theorem contribution_total (inRange : env.InRange) (entry : Entry) (totals : Option GroupTotals) :
    ∃ x, entry.contribution env totals = .ok x := by
  cases entry with
  | lookup param table =>
    unfold Entry.contribution
    dsimp only
    split <;> exact ⟨_, rfl⟩
  | product params coefficient => exact productOf_total inRange params coefficient
  | reference group factor => cases totals <;> exact ⟨_, rfl⟩
  | floor minimum => exact ⟨0.0, rfl⟩

/-- A formula has a value. -/
theorem quantity_total (inRange : env.InRange) (base : Float) (formula : Formula)
    (totals : Option GroupTotals) : ∃ x, quantity base formula env totals = .ok x :=
  quantity_ok_iff.2 fun entry _ _ => contribution_total inRange entry totals

/-- A formula has a value as a multiplier. -/
theorem multiplier_total (inRange : env.InRange) (formula : Formula) :
    ∃ x, multiplier formula env = .ok x :=
  bind_total (quantity_total inRange 1.0 formula none) fun _ _ => ⟨_, rfl⟩

end Formula

/-! ## Configurations -/

namespace Resolution

variable (catalog : Catalog) {instances : List Instance} {globals : Environment}

theorem occurrences_inRange (inRange : globals.InRange)
    (params : ∀ inst ∈ instances, inst.params.InRange) :
    ∀ occurrence ∈ occurrences catalog instances globals, occurrence.env.InRange := by
  intro occurrence listed
  unfold occurrences at listed
  obtain ⟨inst, present, own⟩ := List.mem_flatMap.1 listed
  split at own
  · obtain ⟨rule, _, rfl⟩ := List.mem_map.1 own
    intro key value found
    dsimp only at found
    rw [OrderedMap.get?_overlay] at found
    rcases Option.or_eq_some_iff.1 found with ofInstance | ⟨_, ofGlobals⟩
    · exact params inst present key value ofInstance
    · exact inRange key value ofGlobals
  · cases own

theorem directQuantities_total {selected : List Occurrence}
    (inRange : ∀ occurrence ∈ selected, occurrence.env.InRange) :
    ∃ direct, directQuantities selected = .ok direct :=
  mapM_total fun occurrence listed =>
    bind_total (Formula.quantity_total (inRange occurrence listed) _ _ _) fun _ _ => ⟨_, rfl⟩

/-- A configuration has quantities, and its rules see values in range. -/
theorem resolve_total (inRange : globals.InRange)
    (params : ∀ inst ∈ instances, inst.params.InRange) :
    ∃ resolution, resolve catalog instances globals = .ok resolution ∧
      ∀ resolved ∈ resolution.rules, resolved.env.InRange := by
  have seen := occurrences_inRange catalog inRange params
  have first := directQuantities_total seen
  obtain ⟨resolution, resolved⟩ : ∃ resolution,
      resolve catalog instances globals = .ok resolution := by
    refine bind_total first fun direct done => ?_
    refine bind_total (mapM_total fun pair listed => ?_) fun _ _ => ⟨_, rfl⟩
    have present := mem_of_directQuantities done listed
    exact bind_total (Formula.quantity_total (seen pair.1 present) _ _ _) fun _ _ => ⟨_, rfl⟩
  refine ⟨resolution, resolved, fun x inRules => ?_⟩
  obtain ⟨direct, done, _, second, _⟩ := resolve_passes resolved
  obtain ⟨pair, listed, same, _⟩ := exists_mem_of_pairs second inRules
  refine seen x.toOccurrence ?_
  rw [same]
  exact mem_of_directQuantities done listed

end Resolution

end WiringQuote
