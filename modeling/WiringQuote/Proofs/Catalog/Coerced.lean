import WiringQuote.Proofs.Catalog.Parameters
import WiringQuote.Proofs.Decimal.Whole

/-!
# Coerced values

A value in the form in which a parameter stores it is accepted again and stays as it is. Defaults are
written over by the stored values, so that coercing these over the defaults yields them.

* `coerce_fixed`, `coerceGlobal_fixed`, `coerceLocal_fixed`: coercing twice is coercing once.
-/

namespace WiringQuote

open Decimal Fallible

namespace ParameterDefinition

/-- The stored form of a finite number is finite, and its own stored form. -/
theorem normalNumber_fixed {n : Number} {x : Float} (converts : n.toFloat = .ok x)
    (finite : x.isFinite = true) :
    (∃ y, (normalNumber n).toFloat = .ok y ∧ y.isFinite = true) ∧
      normalNumber (normalNumber n) = normalNumber n := by
  cases n with
  | int n => exact ⟨⟨x, converts, finite⟩, rfl⟩
  | float y =>
    cases converts
    by_cases whole : Decimal.isWhole x = true
    · have stored : normalNumber (.float x) = .int (wholePart x) := if_pos whole
      rw [stored]
      exact ⟨exists_ofInt_wholePart whole, rfl⟩
    · have stored : normalNumber (.float x) = .float x := if_neg whole
      rw [stored]
      exact ⟨⟨x, rfl, finite⟩, stored⟩

theorem coerceNumber_fixed {key : String} {value : Value}
    (accepted : Accepted (coerceNumber key) value) : coerceNumber key value = .ok value := by
  obtain ⟨given, coerced⟩ := accepted
  unfold coerceNumber at coerced
  split at coerced
  · cases coerced
  · rename_i n _
    split at coerced
    · cases coerced
    · rename_i x converts
      split at coerced
      · rename_i finite
        cases coerced
        obtain ⟨⟨y, again, still⟩, same⟩ := normalNumber_fixed converts finite
        unfold coerceNumber number?
        dsimp only
        rw [again]
        dsimp only
        rw [if_pos still, same]
      · cases coerced

theorem coerceText_fixed {definition : ParameterDefinition} {value : Value}
    (accepted : Accepted definition.coerceText value) : definition.coerceText value = .ok value := by
  obtain ⟨given, coerced⟩ := accepted
  unfold coerceText at coerced
  split at coerced
  · cases coerced
  · dsimp only at coerced
    split at coerced
    · cases coerced
    · rename_i passes
      cases coerced
      exact if_neg passes

theorem coerce_fixed {definition : ParameterDefinition} {value : Value}
    (accepted : Accepted definition.coerce value) : definition.coerce value = .ok value := by
  obtain ⟨given, coerced⟩ := accepted
  unfold coerce at coerced ⊢
  split at coerced
  · split at coerced
    · cases coerced
      rfl
    · cases coerced
  · exact coerceNumber_fixed ⟨given, coerced⟩
  · exact coerceText_fixed ⟨given, coerced⟩
  · exact coerceText_fixed ⟨given, coerced⟩

end ParameterDefinition

namespace Catalog

variable {catalog : Catalog} {key : String} {value : Value}

theorem coerceGlobal_fixed (accepted : Accepted (catalog.coerceGlobal key) value) :
    catalog.coerceGlobal key value = .ok value := by
  obtain ⟨given, coerced⟩ := accepted
  unfold coerceGlobal at coerced ⊢
  split at coerced
  · split at coerced
    · rename_i isGlobal
      rw [if_pos isGlobal]
      exact ParameterDefinition.coerce_fixed ⟨given, coerced⟩
    · cases coerced
  · split at coerced
    · rename_i quality
      split at coerced
      · rename_i level
        cases coerced
        rw [if_pos quality, if_pos level]
      · cases coerced
    · cases coerced

theorem coerceLocal_fixed {packageId : Value}
    (accepted : Accepted (catalog.coerceLocal packageId key) value) :
    catalog.coerceLocal packageId key value = .ok value := by
  obtain ⟨given, coerced⟩ := accepted
  unfold coerceLocal at coerced ⊢
  split at coerced
  · split at coerced
    · rename_i exposed
      rw [if_pos exposed]
      exact ParameterDefinition.coerce_fixed ⟨given, coerced⟩
    · cases coerced
  · cases coerced

end Catalog

end WiringQuote
