import WiringQuote.Proofs.Catalog.InRange

/-!
# Values of a parameter's kind

What a parameter stores is of its kind, and it refuses what stands for no value of its kind. It fails
otherwise for one kind of values: a parameter for numbers cannot tell whether a whole number is finite
that binary64 does not reach.

* `coerce_fits`: what is stored is of the kind of the parameter.
* `coerce_of_fits`: what is of its kind and in range is stored.
* `coerce_beyondRange`: the values for which a parameter fails otherwise.
* `checks`: these together.
-/

namespace WiringQuote

open Decimal Fallible

/-- A refusal for the form of a value. -/
def ParameterFault.IsRefusal (fault : ParameterFault) : Prop := ∀ reason, fault ≠ .arithmetic reason

namespace ParameterDefinition

variable {definition : ParameterDefinition} {value stored : Value}

/-- The value is of the kind of the parameter:

* a truth value;
* a whole number, or a finite number that is not whole;
* a text, and one of the options where there are some to select from. -/
inductive Fits (definition : ParameterDefinition) : Value → Prop
  | boolean (b : Bool) : definition.kind = .boolean → Fits definition (.bool b)
  | whole (n : Int) : definition.kind = .number → Fits definition (.int n)
  | fraction {x : Float} : definition.kind = .number → x.isFinite = true → isWhole x = false →
      Fits definition (.float x)
  | option {text : String} : definition.kind = .select →
      (definition.options = [] ∨ text ∈ definition.options) → Fits definition (.str text)
  | text (text : String) : definition.kind = .text → Fits definition (.str text)

/-! ## What is stored -/

theorem coerceNumber_fits (kind : definition.kind = .number)
    (coerced : coerceNumber definition.key value = .ok stored) : definition.Fits stored := by
  unfold coerceNumber at coerced
  split at coerced
  · cases coerced
  · rename_i n read
    split at coerced
    · cases coerced
    · rename_i x reached
      split at coerced
      · rename_i finite
        cases coerced
        cases n with
        | int n => exact .whole n kind
        | float y =>
          cases reached
          unfold normalNumber
          dsimp only
          split
          · exact .whole _ kind
          · rename_i fraction
            exact .fraction kind finite (Bool.eq_false_iff.2 fraction)
      · cases coerced

/-- What a parameter stores is of its kind. -/
theorem coerce_fits (coerced : definition.coerce value = .ok stored) : definition.Fits stored := by
  unfold coerce at coerced
  split at coerced
  · rename_i kind
    split at coerced
    · cases coerced
      exact .boolean _ kind
    · cases coerced
  · rename_i kind
    exact coerceNumber_fits kind coerced
  · rename_i kind
    obtain ⟨text, rfl, offered⟩ := coerceText_ok coerced
    exact .option kind (offered kind)
  · rename_i kind
    obtain ⟨text, rfl, _⟩ := coerceText_ok coerced
    exact .text text kind

/-! ## What is accepted -/

/-- A value of the kind of the parameter that is in range is stored as it is. -/
theorem coerce_of_fits (fits : definition.Fits value) (inRange : value.InRange) :
    definition.coerce value = .ok value := by
  unfold coerce
  cases fits with
  | boolean b kind =>
    rw [kind]
    rfl
  | whole n kind =>
    obtain ⟨x, reached⟩ := inRange n rfl
    have converted : (Number.int n).toFloat = .ok x := reached
    have read : number? (.int n) = some (.int n) := rfl
    rw [kind]
    unfold coerceNumber
    rw [read]
    dsimp only
    rw [converted]
    exact if_pos (isFinite_of_ofInt reached)
  | @fraction x kind finite fraction =>
    have normal : normalNumber (.float x) = .float x := if_neg (by simp [fraction])
    rw [kind]
    show (if x.isFinite then Except.ok (Value.num (normalNumber (.float x))) else _) = _
    rw [if_pos finite, normal]
    rfl
  | @option text kind offered =>
    rw [kind]
    refine if_neg ?_
    rcases offered with none | listed
    · simp [none]
    · simp [Value.text, listed]
  | text text kind =>
    rw [kind]
    refine if_neg ?_
    simp [kind]

/-! ## What fails -/

/-- A parameter for numbers cannot tell whether such a whole number is finite. -/
theorem coerce_beyondRange (kind : definition.kind = .number) (beyond : ¬ value.InRange) :
    definition.coerce value = .error (.arithmetic .beyondRange) := by
  obtain ⟨n, rfl, unreached⟩ := Value.not_inRange_iff.1 beyond
  have read : number? (.int n) = some (.int n) := rfl
  have converted : (Number.int n).toFloat = .error .beyondRange := unreached
  unfold coerce coerceNumber
  rw [kind, read]
  dsimp only
  rw [converted]

/-- How a parameter checks values:

* it stores a value of its kind or refuses;
* only one for numbers fails otherwise, for a whole number that binary64 does not reach;
* it accepts what is of its kind. -/
structure Checks (definition : ParameterDefinition) : Prop where
  answers : ∀ value, (definition.kind = .number → value.InRange) →
    Answers definition.Fits ParameterFault.IsRefusal (definition.coerce value)
  overflows : ∀ value, definition.kind = .number → ¬ value.InRange →
    definition.coerce value = .error (.arithmetic .beyondRange)
  accepts : ∀ value, definition.Fits value → value.InRange → definition.coerce value = .ok value

theorem checks (definition : ParameterDefinition) : definition.Checks where
  answers value inRange := by
    refine answers_iff.2 ⟨fun stored => coerce_fits, fun fault fails reason same => ?_⟩
    exact coerce_noFault inRange (same ▸ fails)
  overflows _ := coerce_beyondRange
  accepts _ := coerce_of_fits

end ParameterDefinition

end WiringQuote
