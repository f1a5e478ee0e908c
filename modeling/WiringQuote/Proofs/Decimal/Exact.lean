import Mathlib.Data.Rat.Cast.Order
import Mathlib.Tactic.FieldSimp
import Mathlib.Tactic.Linarith
import Mathlib.Tactic.Positivity
import WiringQuote.Number
import WiringQuote.Proofs.Decimal.Order

/-!
# Exact values

A finite number stands for a fraction. An operation is exact if its result is finite and stands for the
exact result. Of exact results no more has to be known than the fractions: numbers count as equal exactly
if they stand for the same one, whatever the sign of a zero.

* `Canonical.eq_of_value`: a magnitude above zero has one mantissa and one exponent.
* `beq_iff_value`: finite numbers count as equal exactly if their values are.
-/

namespace WiringQuote.Decimal

open Float.Model UnpackedFloat

variable {x y : Float} {m n : Nat} {e f : Int}

/-- The exact value of a finite number. -/
def value (x : Float) : ℚ :=
  let magnitude : ℚ := (Binary.ofFloat x).numerator / (Binary.ofFloat x).denominator
  if signBit x then -magnitude else magnitude

/-- The number is finite, and this is its exact value. -/
structure Exactly (x : Float) (r : ℚ) : Prop where
  finite : x.isFinite = true
  value : value x = r

instance (x : Float) (r : ℚ) : Decidable (Exactly x r) :=
  decidable_of_iff (x.isFinite = true ∧ Decimal.value x = r)
    ⟨fun both => ⟨both.1, both.2⟩, fun exact => ⟨exact.finite, exact.value⟩⟩

theorem magnitude_eq (b : Binary) :
    (b.numerator : ℚ) / b.denominator = b.mantissa * 2 ^ b.exponent := by
  have power : ∀ k, Nat.pow 2 k = 2 ^ k := fun _ => rfl
  unfold Binary.numerator Binary.denominator
  simp only [power]
  push_cast
  rcases Int.le_total 0 b.exponent with whole | fraction
  · have none : (-b.exponent).toNat = 0 := by omega
    obtain ⟨k, exponent⟩ := Int.eq_ofNat_of_zero_le whole
    rw [none, exponent, pow_zero, div_one, Int.toNat_natCast, zpow_natCast]
  · have none : b.exponent.toNat = 0 := by omega
    obtain ⟨k, exponent⟩ := Int.eq_ofNat_of_zero_le (Int.neg_nonneg_of_nonpos fraction)
    have negative : b.exponent = -(k : Int) := by omega
    rw [none, exponent, negative, pow_zero, mul_one, Int.toNat_natCast, zpow_neg, zpow_natCast,
      div_eq_mul_inv]

/-- The value of a magnitude under a sign. -/
def signed (negative : Bool) (r : ℚ) : ℚ := if negative then -r else r

theorem value_of_denotes {negative : Bool} (denotes : Denotes x negative m e) :
    value x = signed negative (m * 2 ^ e) := by
  unfold value signed
  dsimp only
  rw [magnitude_eq, denotes.mantissa, denotes.exponent, denotes.sign]

/-- A magnitude above zero has one mantissa and one exponent. -/
theorem Canonical.eq_of_value (left : Canonical m e) (right : Canonical n f) (positive : 0 < m)
    (some : 0 < n) (same : (m : ℚ) * 2 ^ e = n * 2 ^ f) : m = n ∧ e = f := by
  -- By symmetry, the first exponent is at most the second.
  wlog most : e ≤ f generalizing m n e f
  · obtain ⟨mantissas, exponents⟩ := this right left some positive same.symm (by omega)
    exact ⟨mantissas.symm, exponents.symm⟩
  obtain ⟨k, apart⟩ := Int.eq_ofNat_of_zero_le (Int.sub_nonneg.2 most)
  have scaled : (m : ℚ) = n * 2 ^ k := by
    have exponent : f = e + (k : Int) := by omega
    rw [exponent, zpow_add₀ (by norm_num), zpow_natCast] at same
    have unit : (2 : ℚ) ^ e ≠ 0 := zpow_ne_zero _ (by norm_num)
    exact mul_right_cancel₀ unit (by rw [same]; ring)
  have whole : m = n * 2 ^ k := by exact_mod_cast scaled
  have none : k = 0 := by
    by_contra more
    have large : 2 ^ 52 ≤ n := by
      rcases right.normal with normal | least
      · exact normal
      · have := left.least
        omega
    have twice : 2 ^ 1 ≤ 2 ^ k := Nat.pow_le_pow_right (by decide) (by omega)
    have beyond : 2 ^ 52 * 2 ^ 1 ≤ n * 2 ^ k := Nat.mul_le_mul large twice
    have bits := left.bits
    omega
  subst none
  exact ⟨by omega, by omega⟩

/-- A finite number is read as zero or as a canonical magnitude with a sign. -/
theorem finite_cases (finite : x.isFinite = true) :
    (∃ sign, x.toModel.unpack = .zero sign ∧ value x = 0) ∨
      ∃ negative m e, ∃ positive : 0 < m,
        x.toModel.unpack = .finite (signOf negative) m e positive ∧
          Canonical m e ∧ value x = signed negative (m * 2 ^ e) := by
  have denotes := denotes_self finite
  have exact := value_of_denotes denotes
  rcases Nat.eq_zero_or_pos (Binary.ofFloat x).mantissa with none | positive
  · refine .inl ⟨_, unpack_zero (none ▸ denotes), ?_⟩
    rw [exact, none]
    unfold signed
    simp
  · exact .inr ⟨_, _, _, positive, unpack_of_denotes denotes positive, denotes.canonical, exact⟩

theorem signed_ne_zero {r : ℚ} (positive : 0 < r) (negative : Bool) : signed negative r ≠ 0 := by
  cases negative with
  | false => exact positive.ne'
  | true => exact neg_ne_zero.2 positive.ne'

theorem magnitude_pos (positive : 0 < m) (e : Int) : 0 < (m : ℚ) * 2 ^ e :=
  mul_pos (Nat.cast_pos.2 positive) (zpow_pos two_pos e)

/-- A fraction above zero differs from one below zero. -/
theorem signed_ne {r s : ℚ} (first : 0 < r) (second : 0 < s) : signed true r ≠ signed false s :=
  ((neg_lt_zero.2 first).trans second).ne

/-- Finite numbers count as equal exactly if their values are. -/
theorem beq_iff_value (finiteX : x.isFinite = true) (finiteY : y.isFinite = true) :
    (x == y) = true ↔ value x = value y := by
  have compared : (x == y) = true ↔ x.toModel.unpack.compare y.toModel.unpack = some .eq :=
    beq_iff_eq (a := x.toModel.unpack.compare y.toModel.unpack) (b := some .eq)
  rw [compared]
  rcases finite_cases finiteX with ⟨_, readX, zeroX⟩ | ⟨negX, m, e, posX, readX, canonicalX, valueX⟩
  · rw [readX, zeroX]
    rcases finite_cases finiteY with ⟨_, readY, zeroY⟩ | ⟨negY, n, f, posY, readY, _, valueY⟩
    · rw [readY, zeroY]
      exact iff_of_true rfl rfl
    · rw [readY, valueY]
      refine iff_of_false ?_ (signed_ne_zero (magnitude_pos posY f) negY).symm
      cases negY <;> intro same <;> cases same
  · rw [readX, valueX]
    have someX := magnitude_pos posX e
    rcases finite_cases finiteY with ⟨_, readY, zeroY⟩ | ⟨negY, n, f, posY, readY, canonicalY, valueY⟩
    · rw [readY, zeroY]
      refine iff_of_false ?_ (signed_ne_zero someX negX)
      cases negX <;> intro same <;> cases same
    · rw [readY, valueY]
      have someY := magnitude_pos posY f
      have magnitudes : (compare e f).then (compare m n) = .eq ↔ (m : ℚ) * 2 ^ e = n * 2 ^ f := by
        rw [Ordering.then_eq_eq, compare_eq_iff_eq, compare_eq_iff_eq]
        constructor
        · rintro ⟨rfl, rfl⟩
          rfl
        · intro same
          obtain ⟨mantissas, exponents⟩ := canonicalX.eq_of_value canonicalY posX posY same
          exact ⟨exponents, mantissas⟩
      cases negX <;> cases negY
      · exact Option.some_inj.trans magnitudes
      · exact iff_of_false (fun same => by cases same) (signed_ne someY someX).symm
      · exact iff_of_false (fun same => by cases same) (signed_ne someX someY)
      · refine (Option.some_inj.trans Ordering.swap_eq_eq).trans (magnitudes.trans ?_)
        exact neg_inj.symm

/-- Exact results count as equal exactly if the fractions are. -/
theorem Exactly.beq_iff {r s : ℚ} (first : Exactly x r) (second : Exactly y s) :
    (x == y) = true ↔ r = s := by
  rw [beq_iff_value first.finite second.finite, first.value, second.value]

end WiringQuote.Decimal

namespace WiringQuote

/-- The exact value of a number. -/
def Number.value : Number → ℚ
  | .int n => n
  | .float x => Decimal.value x

end WiringQuote
