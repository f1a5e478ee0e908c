import WiringQuote.Formula.Evaluate
import WiringQuote.Proofs.Fallible
import WiringQuote.Proofs.OrderedMap

/-!
# What a formula adds up to

`Adds` says entry by entry what a formula adds to a quantity: a lookup and a product add their
contribution, a floor adds nothing, and a reference adds its share of the total of a group unless it
is omitted.

* `quantity_ok_iff`: a quantity is found if each entry that adds to it has a contribution.
* `adds_of_direct`: without group totals a formula adds its lookups and products.
* `adds_of_kept`: with group totals a formula whose omitted references were taken out adds the
  shares of the others as well.
* `adds_of_unreferenced`: for a formula without references the group totals do not matter.
* `Adds.unique`: a formula adds up to one quantity only.
-/

namespace WiringQuote.Formula

open Decimal Fallible

/-- `Adds env total omits q f r`: going through `f` in order takes the quantity from `q` to `r`.

* `lookup` and `product`: the contribution under `env` is added.
* `reference`: a share of the total of the group is added.
* `omitted` and `floor`: the entry is passed over. -/
inductive Adds (env : Environment) (total : String → Float) (omits : String → Prop) :
    Float → Formula → Float → Prop
  | done {q : Float} : Adds env total omits q [] q
  | lookup {q term r : Float} {param : String} {table : List (String × Float)} {rest : Formula} :
      (Entry.lookup param table).contribution env none = .ok term →
      Adds env total omits (q + term) rest r → Adds env total omits q (.lookup param table :: rest) r
  | product {q term r coefficient : Float} {params : List String} {rest : Formula} :
      (Entry.product params coefficient).contribution env none = .ok term →
      Adds env total omits (q + term) rest r →
      Adds env total omits q (.product params coefficient :: rest) r
  | reference {q factor r : Float} {group : String} {rest : Formula} :
      ¬ omits group → Adds env total omits (q + factor * total group) rest r →
      Adds env total omits q (.reference group factor :: rest) r
  | omitted {q factor r : Float} {group : String} {rest : Formula} :
      omits group → Adds env total omits q rest r →
      Adds env total omits q (.reference group factor :: rest) r
  | floor {q minimum r : Float} {rest : Formula} :
      Adds env total omits q rest r → Adds env total omits q (.floor minimum :: rest) r

/-! ## Steps of the sum -/

section Steps

variable {base q : Float} {entry : Entry} {rest : Formula} {env : Environment}
  {totals : Option GroupTotals}

theorem quantity_cons_adds (counts : entry.adds totals = true)
    (summed : quantity base (entry :: rest) env totals = .ok q) :
    ∃ term, entry.contribution env totals = .ok term ∧
      quantity (base + term) rest env totals = .ok q := by
  unfold quantity at summed ⊢
  simp only [List.foldlM_cons, counts, if_true, bind_ok_iff, pure_ok_iff] at summed
  obtain ⟨_, ⟨term, contributed, rfl⟩, others⟩ := summed
  exact ⟨term, contributed, others⟩

theorem quantity_cons_passes (passes : entry.adds totals = false) :
    quantity base (entry :: rest) env totals = quantity base rest env totals := by
  unfold quantity
  simp only [List.foldlM_cons, passes]
  rfl

end Steps

/-! ## Whether there is a sum -/

section Found

variable {env : Environment} {base : Float} {formula : Formula}

/-- A quantity is found exactly if each entry that adds to it has a contribution. -/
theorem quantity_ok_iff {totals : Option GroupTotals} :
    (∃ q, quantity base formula env totals = .ok q) ↔
      ∀ entry ∈ formula, entry.adds totals = true → ∃ x, entry.contribution env totals = .ok x := by
  unfold quantity
  constructor
  · rintro ⟨q, summed⟩ entry listed adds
    obtain ⟨sum, next, stepped⟩ := foldlM_step_ok summed listed
    rw [if_pos adds] at stepped
    obtain ⟨x, known, _⟩ := bind_ok_iff.1 stepped
    exact ⟨x, known⟩
  · intro known
    have step : ∀ entry ∈ formula, ∀ sum : Float, True → ∃ next,
        (if entry.adds totals then do return sum + (← entry.contribution env totals)
          else return sum : Except Fault Float) = .ok next ∧ True := by
      intro entry listed sum _
      by_cases adds : entry.adds totals = true
      · obtain ⟨x, own⟩ := known entry listed adds
        rw [if_pos adds, own]
        exact ⟨sum + x, rfl, trivial⟩
      · rw [if_neg adds]
        exact ⟨sum, rfl, trivial⟩
    obtain ⟨q, summed, _⟩ : ∃ q, quantity base formula env totals = .ok q ∧ True :=
      foldlM_total trivial step
    exact ⟨q, summed⟩

/-- With totals known, a quantity is found from any of the entries from which one is found without. -/
theorem quantity_total_of_direct {fewer : Formula} (totals : GroupTotals)
    (direct : ∃ q, quantity base formula env none = .ok q)
    (among : ∀ entry ∈ fewer, entry ∈ formula) :
    ∃ q, quantity base fewer env (some totals) = .ok q := by
  rw [quantity_ok_iff] at direct ⊢
  intro entry listed _
  cases entry with
  | reference group factor => exact ⟨_, rfl⟩
  | floor minimum => exact ⟨_, rfl⟩
  | lookup param table => exact direct _ (among _ listed) rfl
  | product params coefficient => exact direct _ (among _ listed) rfl

/-- A quantity depends on the totals by group only. -/
theorem quantity_congr_totals {totals others : GroupTotals} (same : totals.Same others) :
    quantity base formula env (some totals) = quantity base formula env (some others) := by
  unfold quantity
  refine foldlM_congr (fun entry _ sum => ?_) base
  cases entry with
  | reference group factor =>
    simp only [Entry.adds, Entry.contribution]
    rw [same group]
    rfl
  | lookup | product | floor => rfl

end Found

/-! ## The two ways of summing -/

/-- Without group totals a formula adds its lookups and products. -/
theorem adds_of_direct {base q : Float} {formula : Formula} {env : Environment}
    {total : String → Float} (summed : quantity base formula env none = .ok q) :
    Adds env total (fun _ => True) base formula q := by
  induction formula generalizing base with
  | nil =>
    cases summed
    exact .done
  | cons entry rest ih =>
    cases entry with
    | lookup param table =>
      obtain ⟨term, contributed, others⟩ := quantity_cons_adds rfl summed
      exact .lookup contributed (ih others)
    | product params coefficient =>
      obtain ⟨term, contributed, others⟩ := quantity_cons_adds rfl summed
      exact .product contributed (ih others)
    | reference group factor =>
      rw [quantity_cons_passes rfl] at summed
      exact .omitted trivial (ih summed)
    | floor minimum =>
      rw [quantity_cons_passes rfl] at summed
      exact .floor (ih summed)

/-- The filter takes out the omitted references and nothing that adds. -/
def Keeps (keep : Entry → Bool) (omits : String → Prop) (formula : Formula) : Prop :=
  ∀ entry ∈ formula, match entry with
    | .reference group _ => keep entry = true ↔ ¬ omits group
    | _ => keep entry = true

/-- With group totals a formula adds the shares of the references that were not taken out. -/
theorem adds_of_kept {base q : Float} {formula : Formula} {env : Environment}
    {totals : GroupTotals} {keep : Entry → Bool} {omits : String → Prop}
    (keeps : Keeps keep omits formula)
    (summed : quantity base (formula.filter keep) env (some totals) = .ok q) :
    Adds env (fun group => (totals.get? group).getD 0.0) omits base formula q := by
  induction formula generalizing base with
  | nil =>
    cases summed
    exact .done
  | cons entry rest ih =>
    have others : Keeps keep omits rest := fun e inRest => keeps e (List.mem_cons_of_mem _ inRest)
    have first := keeps entry List.mem_cons_self
    cases entry with
    | lookup param table =>
      rw [List.filter_cons_of_pos first] at summed
      obtain ⟨term, contributed, after⟩ := quantity_cons_adds rfl summed
      exact .lookup contributed (ih others after)
    | product params coefficient =>
      rw [List.filter_cons_of_pos first] at summed
      obtain ⟨term, contributed, after⟩ := quantity_cons_adds rfl summed
      exact .product contributed (ih others after)
    | reference group factor =>
      by_cases kept : keep (.reference group factor) = true
      · rw [List.filter_cons_of_pos kept] at summed
        obtain ⟨term, contributed, after⟩ := quantity_cons_adds rfl summed
        cases contributed
        exact .reference (first.1 kept) (ih others after)
      · rw [List.filter_cons_of_neg kept] at summed
        exact .omitted (not_not.1 fun stays => kept (first.2 stays)) (ih others summed)
    | floor minimum =>
      rw [List.filter_cons_of_pos first, quantity_cons_passes rfl] at summed
      exact .floor (ih others summed)

/-! ## Formulas without references -/

/-- No entry of the formula is a reference. -/
def Unreferenced (formula : Formula) : Prop :=
  ∀ group factor, .reference group factor ∉ formula

theorem quantity_of_unreferenced {base : Float} {formula : Formula} {env : Environment}
    (own : Unreferenced formula) (totals : GroupTotals) :
    quantity base formula env (some totals) = quantity base formula env none := by
  unfold quantity
  refine foldlM_congr (fun entry listed sum => ?_) base
  cases entry with
  | reference group factor => exact absurd listed (own group factor)
  | lookup | product | floor => rfl

/-- For a formula without references neither the group totals nor the omitted groups matter. -/
theorem adds_of_unreferenced {base q : Float} {formula : Formula} {env : Environment}
    {totals : GroupTotals} {omits : String → Prop} (own : Unreferenced formula)
    (summed : quantity base formula env none = .ok q) :
    Adds env (fun group => (totals.get? group).getD 0.0) omits base formula q := by
  have everything : Keeps (fun _ => true) omits formula := by
    intro entry listed
    cases entry with
    | reference group factor => exact absurd listed (own group factor)
    | lookup | product | floor => rfl
  refine adds_of_kept everything ?_
  rw [List.filter_true, quantity_of_unreferenced own]
  exact summed

/-- A formula adds up to one quantity only. -/
theorem Adds.unique {env : Environment} {total : String → Float} {omits : String → Prop}
    {base q r : Float} {formula : Formula} (first : Adds env total omits base formula q)
    (second : Adds env total omits base formula r) : q = r := by
  induction first with
  | done =>
    cases second
    rfl
  | lookup contributed _ ih =>
    cases second with
    | lookup again others =>
      cases contributed.symm.trans again
      exact ih others
  | product contributed _ ih =>
    cases second with
    | product again others =>
      cases contributed.symm.trans again
      exact ih others
  | reference counts _ ih =>
    cases second with
    | reference _ others => exact ih others
    | omitted left _ => exact absurd left counts
  | omitted left _ ih =>
    cases second with
    | reference counts _ => exact absurd left counts
    | omitted _ others => exact ih others
  | floor _ ih =>
    cases second with
    | floor others => exact ih others

/-! ## Referenced groups -/

/-- The referenced groups of a formula are those of its references. -/
theorem mem_references_iff {formula : Formula} {group : String} :
    group ∈ formula.references.keys ↔ ∃ factor, .reference group factor ∈ formula := by
  have general : ∀ known : GroupTotals,
      group ∈ (formula.foldl (fun refs entry =>
        match entry with
        | .reference group factor => refs.insert group ((refs.get? group).getD 0.0 + factor)
        | _ => refs) known).keys ↔
      group ∈ known.keys ∨ ∃ factor, .reference group factor ∈ formula := by
    induction formula with
    | nil => simp
    | cons entry rest ih =>
      intro known
      rw [List.foldl_cons, ih]
      cases entry with
      | reference other factor =>
        have added : group ∈ (known.insert other ((known.get? other).getD 0.0 + factor)).keys ↔
            group ∈ known.keys ∨ group = other := by
          rw [OrderedMap.keys_insert]
          split
          · rename_i present
            exact ⟨.inl, fun either => either.elim id fun same => same ▸ present⟩
          · simp
        simp only [added, List.mem_cons, Entry.reference.injEq, exists_or, or_assoc]
        simp
      | lookup | product | floor => simp
  have whole := general .empty
  have none : group ∉ (OrderedMap.empty : GroupTotals).keys := List.not_mem_nil
  rw [or_iff_right none] at whole
  exact whole

end WiringQuote.Formula
