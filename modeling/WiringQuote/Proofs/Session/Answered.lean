import WiringQuote.Proofs.Catalog.InRange
import WiringQuote.Proofs.Session.Cleaned

/-!
# Settings that are accepted or refused

A number that a user sets is first converted to binary64 and only then looked at. So a setting has
three outcomes: a number within its bounds, a refusal, and for a whole number that binary64 does not
reach the fault of the conversion.

* `Checks`: the check of a setting with its bounds.
* `number_checks`, `amount_checks`, `markup_checks`, `quantity_checks`: what each setting is checked for.
-/

namespace WiringQuote

open Decimal Fallible

/-- A refusal for the form of a value. -/
def OverrideFault.IsRefusal (fault : OverrideFault) : Prop := ∀ reason, fault ≠ .arithmetic reason

namespace Override

/-! ## What a setting is -/

/-- Finite and not negative. -/
structure BoundedAmount (x : Float) : Prop where
  finite : x.isFinite = true
  nonneg : 0.0 ≤ x

/-- Finite and between the bounds of markups. -/
structure BoundedMarkup (x : Float) : Prop where
  finite : x.isFinite = true
  least : leastMarkup ≤ x
  most : x ≤ largestMarkup

/-- A whole number that is not below one. -/
structure WholeUnits (x : Float) : Prop where
  least : ¬ x < 1.0
  whole : isWhole x = true

/-- At least one, and reached by binary64. -/
structure BoundedQuantity (n : Int) : Prop where
  positive : 1 ≤ n
  reached : ∃ x, ofInt n = .ok x

/-- A value is cleaned to what is fit, or refused. -/
abbrev Cleans {α : Type} (fit : α → Prop) (outcome : Except OverrideFault α) : Prop :=
  Answers fit OverrideFault.IsRefusal outcome

/-- How a setting with bounds is checked:

* a value is cleaned to what is fit, or refused;
* the check fails otherwise only for a whole number that binary64 does not reach;
* it accepts the values that are read as a finite number within the bounds, and no others. -/
structure Checks {α : Type} (clean : Value → Except OverrideFault α) (what : String)
    (within : Float → Prop) (fit : α → Prop) : Prop where
  answers : ∀ value, value.InRange → Cleans fit (clean value)
  overflows : ∀ value, ¬ value.InRange → clean value = .error (.arithmetic .beyondRange)
  accepts : ∀ value, (∃ stored, clean value = .ok stored) ↔
    ∃ x, number what value = .ok x ∧ within x

namespace Checks

variable {α : Type} {clean : Value → Except OverrideFault α} {what : String} {within : Float → Prop}
  {fit : α → Prop} (checks : Checks clean what within fit)

include checks

/-- A value in range is not at fault otherwise. -/
theorem noFault {value : Value} (inRange : value.InRange) (fault : Fault) :
    clean value ≠ .error (.arithmetic fault) :=
  fun fails => (answers_iff.1 (checks.answers value inRange)).2 _ fails fault rfl

/-- What is accepted is fit. -/
theorem fits {value : Value} {stored : α} (cleaned : clean value = .ok stored) : fit stored := by
  by_cases inRange : value.InRange
  · exact (answers_iff.1 (checks.answers value inRange)).1 stored cleaned
  · rw [checks.overflows value inRange] at cleaned
    cases cleaned

end Checks

/-! ## Numbers -/

/-- A whole number that binary64 does not reach is not looked at further. -/
theorem number_beyondRange {value : Value} (beyond : ¬ value.InRange) (what : String) :
    number what value = .error (.arithmetic .beyondRange) := by
  obtain ⟨n, rfl, unreached⟩ := Value.not_inRange_iff.1 beyond
  have read : written? (.int n) = .error .beyondRange := by
    show (ofInt n).map some = _
    rw [unreached]
    rfl
  unfold number
  rw [read]

theorem number_noFault {value : Value} (inRange : value.InRange) {what : String}
    {fault : OverrideFault} (fails : number what value = .error fault) : fault.IsRefusal := by
  rintro reason rfl
  unfold number at fails
  split at fails
  · rename_i beyond
    unfold written? at beyond
    split at beyond
    · obtain ⟨x, reached⟩ := Value.inRange_num_iff.1 inRange
      rw [reached] at beyond
      cases beyond
    · cases beyond
    · cases beyond
  · cases fails
  · split at fails <;> cases fails

/-- A check is told from what it does with a finite number: those within its bounds give a fit result,
the others a refusal. -/
theorem checks_of {α : Type} {fit : α → Prop} {what : String} {within : Float → Prop}
    {next : Float → Except OverrideFault α}
    (good : ∀ x, x.isFinite = true → within x → ∃ stored, next x = .ok stored ∧ fit stored)
    (bad : ∀ x, x.isFinite = true → ¬ within x → ∃ fault, next x = .error fault ∧ fault.IsRefusal) :
    Checks (fun value => number what value >>= next) what within fit where
  answers value inRange := by
    show Cleans fit (number what value >>= next)
    cases read : number what value with
    | error fault => exact .error (number_noFault inRange read)
    | ok x =>
      show Cleans fit (next x)
      by_cases bounded : within x
      · obtain ⟨stored, cleaned, suits⟩ := good x (number_isFinite read) bounded
        rw [cleaned]
        exact .ok suits
      · obtain ⟨fault, refused, refusal⟩ := bad x (number_isFinite read) bounded
        rw [refused]
        exact .error refusal
  overflows _ beyond := bind_error_iff.2 (.inl (number_beyondRange beyond what))
  accepts value := by
    constructor
    · rintro ⟨stored, cleaned⟩
      obtain ⟨x, read, after⟩ := bind_ok_iff.1 cleaned
      refine ⟨x, read, ?_⟩
      by_contra outside
      obtain ⟨fault, refused, _⟩ := bad x (number_isFinite read) outside
      cases refused.symm.trans after
    · rintro ⟨x, read, bounded⟩
      obtain ⟨stored, cleaned, _⟩ := good x (number_isFinite read) bounded
      exact ⟨stored, bind_ok_iff.2 ⟨x, read, cleaned⟩⟩

/-- A value is read as a finite number or refused. -/
theorem number_checks (what : String) :
    Checks (number what) what (fun x => x.isFinite = true) fun x => x.isFinite = true where
  answers _ inRange :=
    answers_iff.2 ⟨fun _ => number_isFinite, fun _ => number_noFault inRange⟩
  overflows _ beyond := number_beyondRange beyond what
  accepts _ :=
    ⟨fun ⟨x, read⟩ => ⟨x, read, number_isFinite read⟩, fun ⟨x, read, _⟩ => ⟨x, read⟩⟩

/-! ## Settings with bounds -/

theorem amount_checks (what : String) :
    Checks (amount what) what BoundedAmount BoundedAmount := by
  refine checks_of (fun x finite bounded => ?_) fun x finite outside => ?_
  · have notNegative := (not_lt_zero_iff finite).2 bounded.nonneg
    have still := isFinite_roundCents finite
    exact ⟨roundCents x, if_neg notNegative, still,
      (not_lt_zero_iff still).1 (not_lt_zero_roundCents finite notNegative)⟩
  · have negative : x < 0.0 := by
      by_contra notNegative
      exact outside ⟨finite, (not_lt_zero_iff finite).1 notNegative⟩
    exact ⟨.negative what, if_pos negative, fun _ same => (by cases same)⟩

theorem markup_checks : Checks markup "Markup" BoundedMarkup BoundedMarkup := by
  refine checks_of (fun x finite bounded => ?_) fun x finite outside => ?_
  · obtain ⟨least, most⟩ := roundCents_within finite bounded.least bounded.most
    refine ⟨roundCents x, if_pos ?_, isFinite_roundCents finite, least, most⟩
    rw [Bool.and_eq_true, decide_eq_true_eq, decide_eq_true_eq]
    exact ⟨bounded.least, bounded.most⟩
  · refine ⟨.markupRange, if_neg fun within => outside ?_, fun _ same => (by cases same)⟩
    rw [Bool.and_eq_true, decide_eq_true_eq, decide_eq_true_eq] at within
    exact ⟨finite, within.1, within.2⟩

/-- The whole part of a whole number that is at least one. -/
theorem WholeUnits.boundedQuantity {x : Float} (units : WholeUnits x) :
    BoundedQuantity (wholePart x) := by
  have finite := isFinite_of_isWhole units.whole
  have reached := ofInt_wholePart units.whole (mantissa_pos_of_not_lt_one finite units.least)
  refine ⟨?_, x, reached⟩
  rcases (wholePart_nonneg (signBit_of_not_lt_one finite units.least)).eq_or_lt with none | some
  · -- Zero is converted to a number below one.
    rw [← none] at reached
    cases reached
    exact absurd (by decide +kernel) units.least
  · exact some

theorem quantity_checks : Checks quantity "Quantity" WholeUnits BoundedQuantity := by
  refine checks_of (fun x finite units => ?_) fun x finite outside => ?_
  · have passes : ¬ (x < 1.0 || !isWhole x) = true := by simp [units.least, units.whole]
    exact ⟨wholePart x, if_neg passes, units.boundedQuantity⟩
  · have broken : (x < 1.0 || !isWhole x) = true := by
      by_contra passes
      have both : ¬ x < 1.0 ∧ isWhole x = true := by simpa using passes
      exact outside ⟨both.1, both.2⟩
    exact ⟨.notWhole, if_pos broken, fun _ same => (by cases same)⟩

end Override

end WiringQuote
