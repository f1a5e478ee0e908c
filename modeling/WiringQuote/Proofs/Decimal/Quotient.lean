import Mathlib.Algebra.Order.Floor.Div
import WiringQuote.Proofs.Decimal.Range

/-!
# Quotients of whole numbers

A quotient is scaled so that 53 bits stand before the point and is then rounded. So it stays in range as
long as the exact quotient is nearer to the largest finite number than to the next power of two.

* `scale_bounds`: the scaled quotient has 53 bits.
* `ceilQuotient_ok_iff`: the number of groups is the integer above the rounded quotient.
* `ceilQuotient_inRange`: groups are counted as long as the quotient rounds to a finite number.
-/

namespace WiringQuote.Decimal

variable {num den : Nat}

namespace Quotient

/-- Scaled by `2 ^ (q - p)`, the quotient has more than so many bits. -/
theorem lower_bound {p q : Nat} (some : 0 < num)
    (enough : den.log2 + 1 + p + 52 ≤ num.log2 + q) : den * 2 ^ p * 2 ^ 52 ≤ num * 2 ^ q := by
  have most : den < 2 ^ (den.log2 + 1) := Nat.lt_log2_self
  have least : 2 ^ num.log2 ≤ num := Nat.log2_self_le some.ne'
  calc den * 2 ^ p * 2 ^ 52 ≤ 2 ^ (den.log2 + 1) * 2 ^ p * 2 ^ 52 :=
        Nat.mul_le_mul_right _ (Nat.mul_le_mul_right _ most.le)
    _ = 2 ^ (den.log2 + 1 + p + 52) := by rw [← Nat.pow_add, ← Nat.pow_add]
    _ ≤ 2 ^ (num.log2 + q) := Nat.pow_le_pow_right (by decide) enough
    _ = 2 ^ num.log2 * 2 ^ q := Nat.pow_add ..
    _ ≤ num * 2 ^ q := Nat.mul_le_mul_right _ least

theorem upper_bound {p q : Nat} (positive : 0 < den)
    (room : num.log2 + 1 + q ≤ den.log2 + p + 53) : num * 2 ^ q < den * 2 ^ p * 2 ^ 53 := by
  have most : num < 2 ^ (num.log2 + 1) := Nat.lt_log2_self
  have least : 2 ^ den.log2 ≤ den := Nat.log2_self_le positive.ne'
  calc num * 2 ^ q < 2 ^ (num.log2 + 1) * 2 ^ q :=
        Nat.mul_lt_mul_of_pos_right most (Nat.two_pow_pos q)
    _ = 2 ^ (num.log2 + 1 + q) := (Nat.pow_add ..).symm
    _ ≤ 2 ^ (den.log2 + p + 53) := Nat.pow_le_pow_right (by decide) room
    _ = 2 ^ den.log2 * 2 ^ p * 2 ^ 53 := by rw [← Nat.pow_add, ← Nat.pow_add]
    _ ≤ den * 2 ^ p * 2 ^ 53 := Nat.mul_le_mul_right _ (Nat.mul_le_mul_right _ least)

/-- The scaled quotient is at least `2 ^ 52` and below `2 ^ 53`. -/
theorem scale_bounds (some : 0 < num) (positive : 0 < den) :
    den * 2 ^ (scale num den).toNat * 2 ^ 52 ≤ num * 2 ^ (-scale num den).toNat ∧
      num * 2 ^ (-scale num den).toNat < den * 2 ^ (scale num den).toNat * 2 ^ 53 := by
  have power : ∀ k, Nat.pow 2 k = 2 ^ k := fun _ => rfl
  unfold scale
  simp only [power]
  generalize guessed : (num.log2 : Int) - den.log2 - 53 = guess
  split
  · rename_i fits
    exact ⟨lower_bound some (by omega), fits⟩
  · rename_i large
    refine ⟨?_, upper_bound positive (by omega)⟩
    -- One bit less than the guess leaves, from above or from below the point.
    rw [Nat.not_lt] at large
    by_cases below : guess < 0
    · have numerator : (-guess).toNat = (-(guess + 1)).toNat + 1 := by omega
      have denominator : guess.toNat = 0 ∧ (guess + 1).toNat = 0 := by omega
      rw [numerator, denominator.1] at large
      rw [denominator.2]
      refine Nat.le_of_mul_le_mul_right (c := 2) ?_ (by decide)
      calc den * 2 ^ 0 * 2 ^ 52 * 2 = den * 2 ^ 0 * 2 ^ 53 := Nat.mul_assoc ..
        _ ≤ num * 2 ^ ((-(guess + 1)).toNat + 1) := large
        _ = num * 2 ^ (-(guess + 1)).toNat * 2 := by rw [Nat.pow_succ, Nat.mul_assoc]
    · have numerator : (-guess).toNat = 0 ∧ (-(guess + 1)).toNat = 0 := by omega
      have denominator : (guess + 1).toNat = guess.toNat + 1 := by omega
      rw [numerator.1] at large
      rw [numerator.2, denominator]
      calc den * 2 ^ (guess.toNat + 1) * 2 ^ 52 = den * 2 ^ guess.toNat * 2 ^ 53 := by
            rw [Nat.mul_assoc, Nat.mul_assoc, ← Nat.pow_add, ← Nat.pow_add, Nat.add_assoc]
        _ ≤ num * 2 ^ 0 := large

theorem roundDiv_lt {m : Nat} (positive : 0 < den) (small : 2 * num + den < 2 * (m * den)) :
    roundDiv num den < m := by
  have near : 2 * (roundDiv num den * den) ≤ 2 * num + den := (roundDiv_near positive).1
  exact Nat.lt_of_mul_lt_mul_right (a := den) (by omega)

/-- A quotient that is nearer to the largest finite number than to the next power of two is in range. -/
theorem rounded_inRange (some : 0 < num) (positive : 0 < den)
    (small : num < den * (2 ^ 1024 - 2 ^ 970)) : (rounded num den).inRange = true := by
  obtain ⟨least, most⟩ := scale_bounds some positive
  unfold rounded inRange numerator denominator
  refine decide_eq_true ?_
  dsimp only
  have power : ∀ k, Nat.pow 2 k = 2 ^ k := fun _ => rfl
  simp only [power]
  generalize scale num den = e at least most ⊢
  have unit : 0 < den * 2 ^ e.toNat := Nat.mul_pos positive (Nat.two_pow_pos _)
  rcases Int.lt_or_le 970 e with large | fine
  · have whole : (-e).toNat = 0 := by omega
    rw [whole, Nat.pow_zero, Nat.mul_one] at least
    -- The largest exponent, at which the significand is not rounded up to the next power.
    have largest : e.toNat = 971 := by
      by_contra other
      have more : 1024 ≤ e.toNat + 52 := by omega
      refine Nat.lt_irrefl num ?_
      calc num < den * (2 ^ 1024 - 2 ^ 970) := small
        _ ≤ den * 2 ^ 1024 := Nat.mul_le_mul_left _ (Nat.sub_le ..)
        _ ≤ den * 2 ^ (e.toNat + 52) := by gcongr; decide
        _ = den * 2 ^ e.toNat * 2 ^ 52 := by rw [Nat.pow_add, Nat.mul_assoc]
        _ ≤ num := least
    rw [largest] at unit
    rw [whole, largest, Nat.pow_zero, Nat.one_mul, Nat.mul_one]
    have significand : roundDiv num (den * 2 ^ 971) < 2 ^ 53 := by
      refine roundDiv_lt unit ?_
      have regroup : ∀ k, den * (2 * 2 ^ 53 * k) = 2 * (2 ^ 53 * (den * k)) := fun k => by ring
      calc 2 * num + den * 2 ^ 971 < 2 * (den * (2 ^ 1024 - 2 ^ 970)) + den * 2 ^ 971 :=
            Nat.add_lt_add_right (Nat.mul_lt_mul_of_pos_left small Nat.two_pos) _
        _ = den * (2 * (2 ^ 1024 - 2 ^ 970) + 2 ^ 971) := by rw [Nat.mul_add, Nat.mul_left_comm]
        _ = den * (2 * 2 ^ 53 * 2 ^ 971) := congrArg (den * ·) (by decide +kernel)
        _ = 2 * (2 ^ 53 * (den * 2 ^ 971)) := regroup _
    refine Nat.lt_of_le_of_lt (Nat.mul_le_mul_right _ (Nat.le_pred_of_lt significand)) ?_
    decide +kernel
  · have significand : roundDiv (num * 2 ^ (-e).toNat) (den * 2 ^ e.toNat) ≤ 2 ^ 53 := by
      refine roundDiv_le unit ?_
      rw [Nat.mul_comm (2 ^ 53)]
      exact most.le
    have exponent : 2 ^ e.toNat ≤ 2 ^ 970 := by gcongr <;> omega
    refine Nat.lt_of_le_of_lt (Nat.mul_le_mul significand exponent) ?_
    refine Nat.lt_of_lt_of_le ?_ (Nat.mul_le_mul_right _ Nat.one_le_two_pow)
    decide +kernel

end Quotient

theorem ceilQuotient_ok_iff (some : 0 < num) {count : Nat} : ceilQuotient num den = .ok (count : Int) ↔
    (Quotient.rounded num den).inRange = true ∧ (Quotient.rounded num den).ceil = count := by
  unfold ceilQuotient
  dsimp only
  rw [Int.natAbs_natCast, if_neg (by omega)]
  cases (Quotient.rounded num den).inRange with
  | false => simp
  | true =>
    rw [if_neg (by decide), if_neg (by omega), Except.ok.injEq]
    simp

theorem ceilQuotient_eq_ceil (some : 0 < num) (positive : 0 < den)
    (small : num < den * (2 ^ 1024 - 2 ^ 970)) :
    ceilQuotient num den = .ok (Quotient.rounded num den).ceil :=
  (ceilQuotient_ok_iff some).2 ⟨Quotient.rounded_inRange some positive small, rfl⟩

/-- Groups are counted as long as the quotient rounds to a finite number. -/
theorem ceilQuotient_inRange (positive : 0 < den) (small : num < den * (2 ^ 1024 - 2 ^ 970)) :
    ∃ count : Nat, ceilQuotient num den = .ok count := by
  rcases Nat.eq_zero_or_pos num with rfl | some
  · exact ⟨0, rfl⟩
  · exact ⟨_, ceilQuotient_eq_ceil some positive small⟩

/-- A count of groups is not negative. -/
theorem ceilQuotient_nonneg {count : Int} (counted : ceilQuotient num den = .ok count) :
    0 ≤ count := by
  unfold ceilQuotient at counted
  dsimp only at counted
  split at counted
  · cases counted
    exact Int.le_refl 0
  · split at counted
    · cases counted
    · rw [if_neg (by omega)] at counted
      cases counted
      exact Int.natCast_nonneg _

end WiringQuote.Decimal
