import WiringQuote.Decimal.Whole
import WiringQuote.Proofs.Decimal.Bounds
import WiringQuote.Proofs.Decimal.Scientific

/-!
# Whole numbers and their floats

* `ofInt_wholePart`: a finite number without a fraction is the float of its whole part.
* `mantissa_pos_of_not_lt_one`, `signBit_of_not_lt_one`: what is at least one is positive.
* `exists_ofInt_wholePart`: also the whole part of a zero is in the range of floats.
-/

namespace WiringQuote.Decimal

open Float.Model UnpackedFloat

variable {x : Float} {negative : Bool} {m n : Nat} {e : Int}

theorem isFinite_of_isWhole (whole : isWhole x = true) : x.isFinite = true := by
  unfold isWhole at whole
  rw [Bool.and_eq_true] at whole
  exact whole.1

/-- A number without a fraction is its integer part. -/
theorem floor_mul (denotes : Denotes x negative m e) (whole : isWhole x = true) :
    (Binary.ofFloat x).floor * 2 ^ (-e).toNat = m * 2 ^ e.toNat := by
  unfold isWhole at whole
  rw [Bool.and_eq_true] at whole
  have divides : m * 2 ^ e.toNat % 2 ^ (-e).toNat = 0 := by
    rw [← denotes.mantissa, ← denotes.exponent]
    exact of_decide_eq_true whole.2
  show (Binary.ofFloat x).mantissa * 2 ^ (Binary.ofFloat x).exponent.toNat /
    2 ^ (-(Binary.ofFloat x).exponent).toNat * _ = _
  rw [denotes.mantissa, denotes.exponent]
  exact Nat.div_mul_cancel (Nat.dvd_of_mod_eq_zero divides)

/-- Only numbers with all 53 bits have no fraction, zero aside. -/
theorem normal_of_whole (canonical : Canonical m e) (positive : 0 < m)
    (same : n * 2 ^ (-e).toNat = m * 2 ^ e.toNat) : 2 ^ 52 ≤ m := by
  rcases canonical.normal with normal | least
  · exact normal
  · have none : e.toNat = 0 := by omega
    have units : 2 ^ 52 ≤ 2 ^ (-e).toNat := Nat.pow_le_pow_right (by decide) (by omega)
    rw [none, Nat.pow_zero, Nat.mul_one] at same
    rcases Nat.eq_zero_or_pos n with rfl | some
    · omega
    · have grows : 1 * 2 ^ (-e).toNat ≤ n * 2 ^ (-e).toNat := Nat.mul_le_mul_right _ some
      omega

/-- A number without a fraction is the float of its whole part; minus zero is not. -/
theorem ofInt_wholePart (whole : isWhole x = true) (some : 0 < (Binary.ofFloat x).mantissa) :
    ofInt (wholePart x) = .ok x := by
  have finite := isFinite_of_isWhole whole
  have denotes := denotes_self finite
  have same := floor_mul denotes whole
  have magnitude := denotes_ofNat denotes.canonical (normal_of_whole denotes.canonical some same) same
  have read : Float.ofInt (wholePart x) = x := by
    unfold wholePart
    generalize (Binary.ofFloat x).floor = k at same magnitude
    cases sign : signBit x with
    | false =>
      rw [sign] at denotes
      exact denotes_unique magnitude denotes
    | true =>
      rw [sign] at denotes
      have positive : 0 < k := by
        rcases Nat.eq_zero_or_pos k with rfl | positive
        · have product := Nat.mul_pos some (Nat.two_pow_pos (Binary.ofFloat x).exponent.toNat)
          omega
        · exact positive
      obtain ⟨j, rfl⟩ : ∃ j, k = j + 1 := ⟨k - 1, by omega⟩
      exact denotes_unique (denotes_neg magnitude some) denotes
  unfold ofInt
  rw [read]
  exact if_pos finite

/-- The whole part of a number without a fraction is in the range of floats. -/
theorem exists_ofInt_wholePart (whole : isWhole x = true) :
    ∃ y, ofInt (wholePart x) = .ok y ∧ y.isFinite = true := by
  rcases Nat.eq_zero_or_pos (Binary.ofFloat x).mantissa with none | some
  · have zero : wholePart x = 0 := by
      unfold wholePart Binary.floor Binary.numerator
      rw [none, Nat.zero_mul, Nat.zero_div]
      split <;> rfl
    rw [zero]
    exact ⟨Float.ofInt 0, by decide +kernel, by decide +kernel⟩
  · exact ⟨x, ofInt_wholePart whole some, isFinite_of_isWhole whole⟩

/-! ## Numbers that are at least one -/

theorem denotes_one : Denotes (1.0 : Float) false (2 ^ 52) (-52) := by
  constructor <;> decide +kernel

/-- No zero is at least one. -/
theorem mantissa_pos_of_not_lt_one (finite : x.isFinite = true) (large : ¬ x < 1.0) :
    0 < (Binary.ofFloat x).mantissa := by
  rcases Nat.eq_zero_or_pos (Binary.ofFloat x).mantissa with none | some
  · have denotes := denotes_self finite
    rw [none] at denotes
    have below : x < 1.0 :=
      lt_iff.2 (by rw [unpack_zero denotes, unpack_of_denotes denotes_one (by decide)]; rfl)
    exact absurd below large
  · exact some

/-- Nothing below zero is at least one. -/
theorem signBit_of_not_lt_one (finite : x.isFinite = true) (large : ¬ x < 1.0) :
    signBit x = false := by
  have positive := mantissa_pos_of_not_lt_one finite large
  cases sign : signBit x with
  | false => rfl
  | true =>
    have denotes := denotes_self finite
    rw [sign] at denotes
    have below : x < 1.0 := by
      rw [lt_iff, unpack_of_denotes denotes positive, unpack_of_denotes denotes_one (by decide)]
      rfl
    exact absurd below large

theorem wholePart_nonneg (positive : signBit x = false) : 0 ≤ wholePart x := by
  unfold wholePart
  rw [positive]
  exact Int.natCast_nonneg _

end WiringQuote.Decimal
