import WiringQuote.Proofs.Catalog.Parameters
import WiringQuote.Proofs.Decimal.Cents
import WiringQuote.Proofs.Decimal.Whole
import WiringQuote.Session.Override

/-!
# Cleaned settings

Whatever cleaning a user's setting has made is accepted again and stays as it is: amounts and markups
are finite, within their bounds and already rounded to cents; quantities are whole numbers that a float
can hold.
-/

namespace WiringQuote.Override

open Decimal Fallible

/-! ## Numbers -/

theorem number_isFinite {what : String} {value : Value} {x : Float}
    (read : number what value = .ok x) : x.isFinite = true := by
  unfold number at read
  split at read
  · cases read
  · cases read
  · split at read
    · rename_i finite
      cases read
      exact finite
    · cases read

theorem number_float {x : Float} (finite : x.isFinite = true) (what : String) :
    number what (.float x) = .ok x := by
  show (if x.isFinite then Except.ok x else .error (OverrideFault.notFinite what)) = _
  rw [if_pos finite]

theorem number_int {n : Int} {x : Float} (exact : ofInt n = .ok x) (finite : x.isFinite = true)
    (what : String) : number what (.int n) = .ok x := by
  unfold number
  have read : written? (.int n) = .ok (some x) := by
    show (ofInt n).map some = _
    rw [exact]
    rfl
  rw [read]
  exact if_pos finite

/-! ## Amounts and markups -/

theorem amount_fixed {what : String} {x : Float} (accepted : Accepted (amount what) x) :
    amount what (.float x) = .ok x := by
  obtain ⟨given, cleaned⟩ := accepted
  unfold amount at cleaned
  obtain ⟨y, read, cleaned⟩ := bind_ok_iff.1 cleaned
  dsimp only at cleaned
  split at cleaned
  · cases cleaned
  · rename_i notNegative
    cases cleaned
    have finite := number_isFinite read
    unfold amount
    rw [number_float (isFinite_roundCents finite)]
    show (if roundCents y < 0.0 then _ else _) = _
    rw [if_neg (not_lt_zero_roundCents finite notNegative)]
    exact congrArg _ (roundCents_idempotent finite)

theorem markup_fixed {x : Float} (accepted : Accepted markup x) : markup (.float x) = .ok x := by
  obtain ⟨given, cleaned⟩ := accepted
  unfold markup at cleaned
  obtain ⟨y, read, cleaned⟩ := bind_ok_iff.1 cleaned
  split at cleaned
  · rename_i within
    cases cleaned
    rw [Bool.and_eq_true, decide_eq_true_eq, decide_eq_true_eq] at within
    have finite := number_isFinite read
    obtain ⟨least, most⟩ := roundCents_within finite within.1 within.2
    have still : (decide (leastMarkup ≤ roundCents y) && decide (roundCents y ≤ largestMarkup)) =
        true := by
      rw [Bool.and_eq_true, decide_eq_true_eq, decide_eq_true_eq]
      exact ⟨least, most⟩
    unfold markup
    rw [number_float (isFinite_roundCents finite)]
    show (if _ then _ else _) = _
    rw [if_pos still]
    exact congrArg _ (roundCents_idempotent finite)
  · cases cleaned

/-! ## Quantities -/

theorem quantity_fixed {n : Int} (accepted : Accepted quantity n) : quantity (.int n) = .ok n := by
  obtain ⟨given, cleaned⟩ := accepted
  unfold quantity at cleaned
  obtain ⟨x, read, cleaned⟩ := bind_ok_iff.1 cleaned
  dsimp only at cleaned
  split at cleaned
  · cases cleaned
  · rename_i passes
    cases cleaned
    have both : ¬ x < 1.0 ∧ isWhole x = true := by simpa using passes
    have finite := number_isFinite read
    have exact := ofInt_wholePart both.2 (mantissa_pos_of_not_lt_one finite both.1)
    unfold quantity
    rw [number_int exact finite]
    show (if _ then _ else _) = _
    rw [if_neg passes]
    rfl

theorem quantity_nonneg {n : Int} (accepted : Accepted quantity n) : 0 ≤ n := by
  obtain ⟨given, cleaned⟩ := accepted
  obtain ⟨x, read, cleaned⟩ := bind_ok_iff.1 cleaned
  dsimp only at cleaned
  split at cleaned
  · cases cleaned
  · rename_i passes
    cases cleaned
    have both : ¬ x < 1.0 ∧ isWhole x = true := by simpa using passes
    exact wholePart_nonneg (signBit_of_not_lt_one (number_isFinite read) both.1)

end WiringQuote.Override
