import WiringQuote.Proofs.Catalog.Coerced

/-!
# Values in range

A whole number beyond the range of binary64 is the one value that a parameter refuses for another
reason than its form. What a parameter stores is in range.

* `Value.not_inRange_iff`: what is out of range.
* `coerceGlobal_inRange`, `coerceLocal_inRange`: a value in range is refused, if at all, for its form.
* `inRange_of_global`, `inRange_of_local`: a stored value is in range.
-/

namespace WiringQuote

open Decimal Fallible

/-- What binary64 reaches is finite there. -/
theorem Decimal.isFinite_of_ofInt {n : Int} {x : Float} (reached : ofInt n = .ok x) :
    x.isFinite = true := by
  unfold ofInt at reached
  dsimp only at reached
  split at reached
  · rename_i finite
    cases reached
    exact finite
  · cases reached

/-- If the value is a whole number, then binary64 reaches it. -/
def Value.InRange (value : Value) : Prop := ∀ n, value = .int n → ∃ x, ofInt n = .ok x

theorem Value.inRange_num_iff {n : Number} : (Value.num n).InRange ↔ ∃ x, n.toFloat = .ok x := by
  cases n with
  | float x => exact ⟨fun _ => ⟨x, rfl⟩, fun _ m same => by cases same⟩
  | int n =>
    refine ⟨fun inRange => inRange n rfl, fun reached m same => ?_⟩
    cases same
    exact reached

/-- A value that is not in range is a whole number that binary64 does not reach. -/
theorem Value.not_inRange_iff {value : Value} :
    ¬ value.InRange ↔ ∃ n, value = .int n ∧ ofInt n = .error .beyondRange := by
  unfold InRange
  push Not
  refine exists_congr fun n => and_congr_right fun _ => ⟨fun never => ?_, fun beyond x reached => ?_⟩
  · cases converted : ofInt n with
    | ok x => exact absurd converted (never x)
    | error fault =>
      unfold ofInt at converted
      dsimp only at converted
      split at converted
      · cases converted
      · exact converted.symm
  · rw [beyond] at reached
    cases reached

/-- Values of other kinds than numbers are in range. -/
theorem Value.inRange_of_ne {value : Value} (other : ∀ n, value ≠ .num n) : value.InRange :=
  fun n same => absurd same (other (.int n))

/-! ## Values that are given -/

namespace ParameterDefinition

variable {value : Value} {fault : Fault}

theorem coerceNumber_inRange (inRange : value.InRange) (key : String) :
    coerceNumber key value ≠ .error (.arithmetic fault) := by
  intro fails
  unfold coerceNumber at fails
  split at fails
  · cases fails
  · rename_i n read
    split at fails
    · rename_i beyond
      cases n with
      | float x => cases beyond
      | int n =>
        have isWhole : value = .int n := by
          unfold number? at read
          split at read
          · cases read
          · cases read
          · cases read
            rfl
          · obtain ⟨_, _, same⟩ := Option.map_eq_some_iff.1 read
            cases same
        obtain ⟨x, reached⟩ := inRange n isWhole
        rw [show Number.toFloat (.int n) = ofInt n from rfl, reached] at beyond
        cases beyond
    · split at fails <;> cases fails

theorem coerceText_noFault (definition : ParameterDefinition) :
    definition.coerceText value ≠ .error (.arithmetic fault) := by
  intro fails
  unfold coerceText at fails
  split at fails
  · cases fails
  · dsimp only at fails
    split at fails <;> cases fails

/-- Only a parameter for numbers refuses a value for another reason than its form. -/
theorem coerce_noFault {definition : ParameterDefinition}
    (inRange : definition.kind = .number → value.InRange) :
    definition.coerce value ≠ .error (.arithmetic fault) := by
  intro fails
  unfold coerce at fails
  split at fails
  · split at fails <;> cases fails
  · rename_i kind
    exact coerceNumber_inRange (inRange kind) _ fails
  · exact coerceText_noFault definition fails
  · exact coerceText_noFault definition fails

/-- A parameter refuses a value in range, if at all, for its form. -/
theorem coerce_inRange (inRange : value.InRange) (definition : ParameterDefinition) :
    definition.coerce value ≠ .error (.arithmetic fault) :=
  coerce_noFault fun _ => inRange

end ParameterDefinition

namespace Catalog

variable {catalog : Catalog} {value : Value} {fault : Fault}

theorem coerceGlobal_inRange (inRange : value.InRange) (key : String) :
    catalog.coerceGlobal key value ≠ .error (.arithmetic fault) := by
  intro fails
  unfold coerceGlobal at fails
  split at fails
  · split at fails
    · exact ParameterDefinition.coerce_inRange inRange _ fails
    · cases fails
  · split at fails
    · split at fails <;> cases fails
    · cases fails

theorem coerceLocal_inRange (inRange : value.InRange) (packageId : Value) (key : String) :
    catalog.coerceLocal packageId key value ≠ .error (.arithmetic fault) := by
  intro fails
  unfold coerceLocal at fails
  split at fails
  · split at fails
    · exact ParameterDefinition.coerce_inRange inRange _ fails
    · cases fails
  · cases fails

end Catalog

/-! ## Values that are stored -/

namespace ParameterDefinition

variable {definition : ParameterDefinition} {value stored : Value}

/-- A text that is stored is one of the options of a selection that has some. -/
theorem coerceText_ok (coerced : definition.coerceText value = .ok stored) :
    ∃ text, stored = .str text ∧
      (definition.kind = .select → definition.options = [] ∨ text ∈ definition.options) := by
  unfold coerceText at coerced
  split at coerced
  · cases coerced
  · dsimp only at coerced
    split at coerced
    · cases coerced
    · rename_i passes
      cases coerced
      refine ⟨_, rfl, fun kind => ?_⟩
      by_contra neither
      rw [not_or] at neither
      exact passes (by simp [kind, neither.1, neither.2])

theorem inRange_of_coerced (accepted : Accepted definition.coerce stored) : stored.InRange := by
  rintro n rfl
  have again := coerce_fixed accepted
  unfold coerce at again
  split at again
  · split at again <;> cases again
  · show ∃ x, (Number.int n).toFloat = .ok x
    unfold coerceNumber number? at again
    split at again
    · cases again
    · rename_i number read
      cases read
      split at again
      · cases again
      · rename_i x reached
        exact ⟨x, reached⟩
  · obtain ⟨_, same, _⟩ := coerceText_ok again
    cases same
  · obtain ⟨_, same, _⟩ := coerceText_ok again
    cases same

end ParameterDefinition

namespace Catalog

variable {catalog : Catalog} {key : String} {value : Value}

theorem inRange_of_global (accepted : Accepted (catalog.coerceGlobal key) value) :
    value.InRange := by
  obtain ⟨given, coerced⟩ := accepted
  unfold coerceGlobal at coerced
  split at coerced
  · split at coerced
    · exact ParameterDefinition.inRange_of_coerced ⟨given, coerced⟩
    · cases coerced
  · split at coerced
    · split at coerced
      · rename_i level
        cases coerced
        rintro n rfl
        cases level
      · cases coerced
    · cases coerced

theorem inRange_of_local {packageId : Value}
    (accepted : Accepted (catalog.coerceLocal packageId key) value) : value.InRange := by
  obtain ⟨given, coerced⟩ := accepted
  unfold coerceLocal at coerced
  split at coerced
  · split at coerced
    · exact ParameterDefinition.inRange_of_coerced ⟨given, coerced⟩
    · cases coerced
  · cases coerced

end Catalog

end WiringQuote
