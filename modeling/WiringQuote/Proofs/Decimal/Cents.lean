import Mathlib.Tactic.IntervalCases
import WiringQuote.Decimal.Places
import WiringQuote.Proofs.Decimal.Bounds
import WiringQuote.Proofs.Decimal.Scientific

/-!
# Rounding to cents

* `denotes_roundCents`: the rounded number has the same sign and as many hundredths.
* `roundCents_idempotent`: rounding a finite number to cents again changes nothing.
* `not_lt_zero_roundCents`, `roundCents_within`: rounding stays within the bounds of what a user may
  set.
-/

namespace WiringQuote.Decimal

open Float.Model UnpackedFloat

variable {x : Float} {negative : Bool} {m n : Nat} {e : Int}

/-! ## Hundredths of a magnitude -/

/-- The hundredths that make up a magnitude, rounded. -/
def hundredths (m : Nat) (e : Int) : Nat :=
  roundDiv (m * 2 ^ e.toNat * 100) (2 ^ (-e).toNat)

theorem units_eq (denotes : Denotes x negative m e) :
    (Binary.ofFloat x).units 2 = hundredths m e := by
  unfold Binary.units Binary.numerator Binary.denominator hundredths
  rw [denotes.mantissa, denotes.exponent]
  rfl

theorem roundCents_eq (denotes : Denotes x negative m e) :
    roundCents x =
      if negative then -Float.ofScientific (hundredths m e) true 2
      else Float.ofScientific (hundredths m e) true 2 := by
  unfold roundCents roundPlaces
  rw [denotes.finite, units_eq denotes, denotes.sign]
  rfl

/-- A magnitude of at most `k` is made up of at most `100 * k` hundredths. -/
theorem hundredths_le {k : Nat} (most : m * 2 ^ e.toNat ≤ k * 2 ^ (-e).toNat) :
    hundredths m e ≤ k * 100 := by
  refine roundDiv_le (Nat.two_pow_pos _) ?_
  calc m * 2 ^ e.toNat * 100 ≤ k * 2 ^ (-e).toNat * 100 := Nat.mul_le_mul_right _ most
    _ = k * 100 * 2 ^ (-e).toNat := Nat.mul_right_comm ..

/-- So many hundredths have 53 bits before a binary point that is moved far enough. -/
theorem exists_scale (positive : 0 < n) (small : n < 100 * 2 ^ 46) :
    ∃ p : Nat, 7 ≤ p ∧ p ≤ 59 ∧ HundredthsScale n (-p) := by
  have log : n.log2 < 53 := (Nat.log2_lt positive.ne').2 (by omega)
  obtain ⟨q, whole⟩ : ∃ q, n.log2 + (q + 1) = 59 := ⟨58 - n.log2, by omega⟩
  have least : 2 ^ 59 ≤ n * 2 ^ (q + 1) := by
    calc 2 ^ 59 = 2 ^ n.log2 * 2 ^ (q + 1) := by rw [← Nat.pow_add, whole]
      _ ≤ n * 2 ^ (q + 1) := Nat.mul_le_mul_right _ (Nat.log2_self_le positive.ne')
  have most : n * 2 ^ (q + 1) < 2 ^ 60 := by
    calc n * 2 ^ (q + 1) < 2 ^ (n.log2 + 1) * 2 ^ (q + 1) :=
          Nat.mul_lt_mul_of_pos_right Nat.lt_log2_self (Nat.two_pow_pos _)
      _ = 2 ^ 60 := by rw [← Nat.pow_add, Nat.add_right_comm, whole]
  have halves : n * 2 ^ (q + 1) = n * 2 ^ q * 2 := by rw [Nat.pow_succ, Nat.mul_assoc]
  -- The leading bits of both sides leave two exponents to choose from.
  obtain ⟨p, bound, lower, upper⟩ : ∃ p : Nat, p ≤ 59 ∧ 2 ^ 52 * 100 ≤ n * 2 ^ p ∧
      n * 2 ^ p < 2 ^ 53 * 100 := by
    by_cases fits : n * 2 ^ (q + 1) < 2 ^ 53 * 100
    · exact ⟨q + 1, by omega, by omega, fits⟩
    · exact ⟨q, by omega, by omega, by omega⟩
  refine ⟨p, ?_, bound, ?_, ?_, by omega⟩
  · by_contra few
    have grows : n * 2 ^ p ≤ n * 2 ^ 6 :=
      Nat.mul_le_mul_left n (Nat.pow_le_pow_right (by decide) (by omega))
    omega
  · simpa using lower
  · simpa using upper

/-! ## Large numbers -/

/-- Between two neighbours from `2 ^ 46` on there is at least a cent, so that the number is the one
nearest to its hundredths. -/
theorem scale_large (canonical : Canonical m e) (large : -6 ≤ e) :
    HundredthsScale (hundredths m e) e ∧ scaledHundredths (hundredths m e) e = m := by
  obtain ⟨bits, low, high, shape⟩ := canonical
  have normal : 2 ^ 52 ≤ m := by omega
  obtain ⟨least, most⟩ := @roundDiv_near (m * 2 ^ e.toNat * 100) (2 ^ (-e).toNat)
    (Nat.two_pow_pos _)
  change 2 * (hundredths m e * _) ≤ _ at least
  change _ ≤ 2 * (hundredths m e * _) + _ at most
  generalize hundredths m e = n at least most
  rcases Int.le_total 0 e with whole | fraction
  · have none : (-e).toNat = 0 := by omega
    have units : 0 < 2 ^ e.toNat := Nat.two_pow_pos _
    rw [none, Nat.pow_zero, Nat.mul_one] at least most
    have exact : n = m * (100 * 2 ^ e.toNat) := by
      rw [Nat.mul_comm 100, ← Nat.mul_assoc]
      omega
    refine ⟨⟨?_, ?_, low⟩, ?_⟩
    · rw [none, Nat.pow_zero, Nat.mul_one, exact]
      exact Nat.mul_le_mul_right _ normal
    · rw [none, Nat.pow_zero, Nat.mul_one, exact]
      exact Nat.mul_lt_mul_of_pos_right bits (by omega)
    · unfold scaledHundredths
      rw [none, Nat.pow_zero, Nat.mul_one, exact]
      exact roundDiv_mul (by omega)
  · obtain ⟨d, few, rfl⟩ : ∃ d : Nat, d ≤ 6 ∧ e = -d := ⟨(-e).toNat, by omega, by omega⟩
    have none : (-(d : Int)).toNat = 0 := by omega
    have some : (- -(d : Int)).toNat = d := by omega
    rw [none, some] at least most
    -- The powers of two up to 64 divide the least mantissa, which therefore stays the least one.
    have scale : 2 ^ 52 * 100 ≤ n * 2 ^ d ∧ n * 2 ^ d < 2 ^ 53 * 100 ∧
        2 * (m * 100) < 2 * (n * 2 ^ d) + 100 ∧ 2 * (n * 2 ^ d) < 2 * (m * 100) + 100 := by
      interval_cases d <;> omega
    refine ⟨⟨?_, ?_, low⟩, ?_⟩
    · rw [none, some]
      exact scale.1
    · rw [none, some]
      exact scale.2.1
    · unfold scaledHundredths
      rw [none, some]
      exact roundDiv_of_near scale.2.2.1 scale.2.2.2

/-- A number from `2 ^ 46` on is what its hundredths are read as. -/
theorem denotes_hundredths_large (canonical : Canonical m e) (large : -6 ≤ e) :
    Denotes (Float.ofScientific (hundredths m e) true 2) false m e := by
  obtain ⟨scale, same⟩ := scale_large canonical large
  have denotes := denotes_ofScientific scale canonical.most (by rw [same]; exact canonical.bits)
  rwa [same] at denotes

/-! ## Small numbers -/

theorem hundredths_small (canonical : Canonical m e) (small : e ≤ -7) :
    hundredths m e < 100 * 2 ^ 46 := by
  have bits := canonical.bits
  obtain ⟨d, rfl⟩ : ∃ d : Nat, e = -(7 + d : Nat) := ⟨(-e - 7).toNat, by omega⟩
  have none : (-((7 + d : Nat) : Int)).toNat = 0 := by omega
  have some : (- -((7 + d : Nat) : Int)).toNat = 7 + d := by omega
  have unit : 0 < 2 ^ d := Nat.two_pow_pos d
  have least := (@roundDiv_near (m * 100) (2 ^ (7 + d)) (Nat.two_pow_pos _)).1
  unfold hundredths
  rw [none, some, Nat.pow_zero, Nat.mul_one]
  by_contra many
  have grows : 100 * 2 ^ 46 * 2 ^ (7 + d) ≤ roundDiv (m * 100) (2 ^ (7 + d)) * 2 ^ (7 + d) :=
    Nat.mul_le_mul_right _ (by omega)
  rw [Nat.pow_add] at grows least
  omega

/-- So few hundredths lie more than two units in the last place apart: the number that they are read
as is made up of just as many, and is at most any whole number that they are at most. -/
theorem exists_hundredths (positive : 0 < n) (small : n < 100 * 2 ^ 46) :
    ∃ m e, 0 < m ∧ Denotes (Float.ofScientific n true 2) false m e ∧ hundredths m e = n ∧
      ∀ k, n ≤ k * 100 → m * 2 ^ e.toNat ≤ k * 2 ^ (-e).toNat := by
  obtain ⟨p, few, many, scale⟩ := exists_scale positive small
  have none : (-(p : Int)).toNat = 0 := by omega
  have some : (- -(p : Int)).toNat = p := by omega
  have unit : 2 ^ 7 ≤ 2 ^ p := Nat.pow_le_pow_right (by decide) few
  have scaled : scaledHundredths n (-p) = roundDiv (n * 2 ^ p) 100 := by
    unfold scaledHundredths
    rw [none, some, Nat.pow_zero, Nat.mul_one]
  obtain ⟨least, most⟩ := @roundDiv_near (n * 2 ^ p) 100 (by decide)
  have bounded : ∀ k, n ≤ k * 100 → scaledHundredths n (-p) ≤ k * 2 ^ p := by
    intro k within
    rw [scaled]
    refine roundDiv_le (by decide) ?_
    calc n * 2 ^ p ≤ k * 100 * 2 ^ p := Nat.mul_le_mul_right _ within
      _ = k * 2 ^ p * 100 := Nat.mul_right_comm ..
  rw [← scaled] at least most
  have lower := scale.le_scaled
  have upper := scale.scaled_le
  -- A mantissa that was rounded up to one bit more is stored with the next exponent.
  by_cases carried : scaledHundredths n (-p) = 2 ^ 53
  · obtain ⟨q, rfl⟩ : ∃ q, p = q + 1 := ⟨p - 1, by omega⟩
    have shown := denotes_ofScientific_carried scale (by omega) carried
    have exponent : -((q + 1 : Nat) : Int) + 1 = -(q : Int) := by omega
    have whole : (-(q : Int)).toNat = 0 := by omega
    have behind : (- -(q : Int)).toNat = q := by omega
    rw [exponent] at shown
    have double : ∀ k, k * 2 ^ (q + 1) = 2 * (k * 2 ^ q) := by
      intro k
      rw [Nat.pow_succ, ← Nat.mul_assoc, Nat.mul_comm]
    rw [carried, double] at least most
    refine ⟨2 ^ 52, -q, by decide, shown, ?_, ?_⟩
    · unfold hundredths
      rw [whole, behind]
      exact roundDiv_of_near (by omega) (by omega)
    · intro k within
      have limit := bounded k within
      rw [carried, double] at limit
      rw [whole, behind]
      omega
  · refine ⟨scaledHundredths n (-p), -p, by omega, denotes_ofScientific scale (by omega) (by omega),
      ?_, ?_⟩
    · unfold hundredths
      rw [none, some]
      exact roundDiv_of_near (by omega) (by omega)
    · intro k within
      rw [none, some, Nat.pow_zero, Nat.mul_one]
      exact bounded k within

/-! ## Rounded numbers -/

theorem denotes_zero (negative : Bool) :
    Denotes (if negative then -Float.ofScientific 0 true 2 else Float.ofScientific 0 true 2)
      negative 0 (-1074) := by
  cases negative <;> constructor <;> decide +kernel

/-- Rounding to cents keeps the sign and the count of hundredths, and what is at most a whole number
stays so. -/
theorem denotes_roundCents (denotes : Denotes x negative m e) :
    ∃ m' e', Denotes (roundCents x) negative m' e' ∧ hundredths m' e' = hundredths m e ∧
      ∀ k, m * 2 ^ e.toNat ≤ k * 2 ^ (-e).toNat → m' * 2 ^ e'.toNat ≤ k * 2 ^ (-e').toNat := by
  have canonical := denotes.canonical
  have signed : ∀ {z : Float} {m' : Nat} {e' : Int}, 0 < m' → Denotes z false m' e' →
      Denotes (if negative then -z else z) negative m' e' := by
    intro z m' e' some read
    cases negative with
    | false => exact read
    | true => exact denotes_neg read some
  rw [roundCents_eq denotes]
  by_cases large : -6 ≤ e
  · have shape := canonical.normal
    exact ⟨m, e, signed (by omega) (denotes_hundredths_large canonical large), rfl,
      fun k within => within⟩
  · have few := hundredths_small canonical (by omega)
    rcases Nat.eq_zero_or_pos (hundredths m e) with none | some
    · rw [none]
      refine ⟨0, -1074, denotes_zero negative, ?_, fun k _ => ?_⟩
      · decide +kernel
      · rw [Nat.zero_mul]
        exact Nat.zero_le _
    · obtain ⟨m', e', positive, read, same, bounded⟩ := exists_hundredths some few
      exact ⟨m', e', signed positive read, same, fun k within => bounded k (hundredths_le within)⟩

theorem isFinite_roundCents (finite : x.isFinite = true) : (roundCents x).isFinite = true := by
  obtain ⟨_, _, rounded, _, _⟩ := denotes_roundCents (denotes_self finite)
  exact rounded.finite

/-- Rounding a finite number to cents again changes nothing. -/
theorem roundCents_idempotent (finite : x.isFinite = true) :
    roundCents (roundCents x) = roundCents x := by
  obtain ⟨m', e', rounded, same, _⟩ := denotes_roundCents (denotes_self finite)
  rw [roundCents_eq rounded, same, ← roundCents_eq (denotes_self finite)]

/-! ## Bounds -/

theorem not_lt_zero_roundCents (finite : x.isFinite = true) (notNegative : ¬ x < 0.0) :
    ¬ roundCents x < 0.0 := by
  have denotes := denotes_self finite
  obtain ⟨m', e', rounded, _, bounded⟩ := denotes_roundCents denotes
  rw [lt_zero_iff rounded]
  rintro ⟨sign, some⟩
  refine notNegative ((lt_zero_iff denotes).2 ⟨sign, Nat.pos_of_ne_zero fun none => ?_⟩)
  have zero := bounded 0 (by rw [none, Nat.zero_mul, Nat.zero_mul])
  have product := Nat.mul_pos some (Nat.two_pow_pos e'.toNat)
  omega

theorem roundCents_within (finite : x.isFinite = true) (least : 0.0 ≤ x) (most : x ≤ 400.0) :
    0.0 ≤ roundCents x ∧ roundCents x ≤ 400.0 := by
  have denotes := denotes_self finite
  obtain ⟨m', e', rounded, _, bounded⟩ := denotes_roundCents denotes
  rw [zero_le_iff denotes] at least
  rw [le_fourHundred_iff denotes] at most
  rw [zero_le_iff rounded, le_fourHundred_iff rounded]
  refine ⟨least.imp_right fun none => ?_, most.imp_right (bounded 400)⟩
  have zero := bounded 0 (by rw [none, Nat.zero_mul, Nat.zero_mul])
  rcases Nat.eq_zero_or_pos m' with none | some
  · exact none
  · have product := Nat.mul_pos some (Nat.two_pow_pos e'.toNat)
    omega

end WiringQuote.Decimal
