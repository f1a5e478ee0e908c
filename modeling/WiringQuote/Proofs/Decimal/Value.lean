import Mathlib.Data.Rat.Floor
import Mathlib.Order.WithBot
import WiringQuote.Proofs.Decimal.Exact
import WiringQuote.Proofs.Decimal.Whole

/-!
# The order of values

Finite numbers are ordered as the fractions they stand for, and are taken down and up to whole numbers as
those are. So numbers of all kinds have their places in one linear order, with the infinities at its two
ends, and comparing them across the kinds compares these places.

* `le_iff_value`: finite numbers are ordered as their values.
* `floor_eq`, `ceil_eq_value`: the whole numbers next to a finite number are those next to its value.
* `eq_of_value`, `isWhole_iff_value`: a number other than zero is known by its value, and has no fraction
  exactly if its value has none.
* `Number.atMost_iff_place`, `Number.AtMost.trans`: numbers of all kinds are in one order.
-/

namespace WiringQuote.Decimal

open Float.Model UnpackedFloat

variable {x y : Float} {m n : Nat} {e f : Int}

/-! ## Finite numbers -/

/-- The magnitude with the smaller exponent is the smaller one. -/
theorem Canonical.lt_of_exponent (left : Canonical m e) (right : Canonical n f) (less : e < f) :
    (m : ℚ) * 2 ^ e < n * 2 ^ f := by
  have bits : (m : ℚ) < 2 ^ 53 := by exact_mod_cast left.bits
  have normal : (2 : ℚ) ^ 52 ≤ n := by
    have large : 2 ^ 52 ≤ n := by
      rcases right.normal with normal | least
      · exact normal
      · have := left.least
        omega
    exact_mod_cast large
  have unit : (0 : ℚ) < 2 ^ e := zpow_pos two_pos e
  calc (m : ℚ) * 2 ^ e < 2 ^ 53 * 2 ^ e := mul_lt_mul_of_pos_right bits unit
    _ = 2 ^ 52 * 2 ^ (e + 1) := by rw [zpow_add_one₀ two_ne_zero]; ring
    _ ≤ n * 2 ^ f := by
      have units : (2 : ℚ) ^ (e + 1) ≤ 2 ^ f := zpow_le_zpow_right₀ one_le_two less
      exact mul_le_mul normal units (zpow_pos two_pos _).le (Nat.cast_nonneg n)

/-- Canonical magnitudes are ordered by their exponents, then by their mantissas. -/
theorem Canonical.isLE_iff_value (left : Canonical m e) (right : Canonical n f) :
    ((compare e f).then (compare m n)).isLE = true ↔ (m : ℚ) * 2 ^ e ≤ n * 2 ^ f := by
  rcases Int.lt_trichotomy e f with less | rfl | more
  · rw [Int.compare_eq_lt.2 less]
    exact iff_of_true rfl (left.lt_of_exponent right less).le
  · have unit : (0 : ℚ) < 2 ^ e := zpow_pos two_pos e
    rw [Int.compare_eq_eq.2 rfl, mul_le_mul_iff_left₀ unit, Nat.cast_le]
    exact Nat.isLE_compare
  · rw [Int.compare_eq_gt.2 more]
    exact iff_of_false Bool.false_ne_true (right.lt_of_exponent left more).not_ge

/-- Finite numbers are ordered as their values. -/
theorem le_iff_value (finiteX : x.isFinite = true) (finiteY : y.isFinite = true) :
    x ≤ y ↔ value x ≤ value y := by
  rw [le_iff]
  rcases finite_cases finiteX with ⟨_, readX, zeroX⟩ | ⟨negX, m, e, posX, readX, canonicalX, valueX⟩
  · rw [readX, zeroX]
    rcases finite_cases finiteY with ⟨_, readY, zeroY⟩ | ⟨negY, n, f, posY, readY, _, valueY⟩
    · rw [readY, zeroY]
      exact iff_of_true rfl le_rfl
    · have someY := magnitude_pos posY f
      rw [readY, valueY]
      cases negY with
      | false => exact iff_of_true rfl someY.le
      | true => exact iff_of_false Bool.false_ne_true (neg_lt_zero.2 someY).not_ge
  · have someX := magnitude_pos posX e
    rw [readX, valueX]
    rcases finite_cases finiteY with ⟨_, readY, zeroY⟩ | ⟨negY, n, f, posY, readY, canonicalY, valueY⟩
    · rw [readY, zeroY]
      cases negX with
      | false => exact iff_of_false Bool.false_ne_true someX.not_ge
      | true => exact iff_of_true rfl (neg_lt_zero.2 someX).le
    · have someY := magnitude_pos posY f
      rw [readY, valueY]
      cases negX <;> cases negY
      · exact canonicalX.isLE_iff_value canonicalY
      · exact iff_of_false Bool.false_ne_true ((neg_lt_zero.2 someY).trans someX).not_ge
      · exact iff_of_true rfl ((neg_lt_zero.2 someX).trans someY).le
      · have swapped : ((compare e f).then (compare m n)).swap =
            (compare f e).then (compare n m) := by
          rw [Ordering.swap_then, Int.compare_swap, Nat.compare_swap]
        show ((compare e f).then (compare m n)).swap.isLE = true ↔ -_ ≤ -_
        rw [swapped, neg_le_neg_iff]
        exact canonicalY.isLE_iff_value canonicalX

theorem mantissa_pos (finite : x.isFinite = true) (some : value x ≠ 0) :
    0 < (Binary.ofFloat x).mantissa := by
  refine Nat.pos_of_ne_zero fun none => some ?_
  rw [value_of_denotes (denotes_self finite), none]
  unfold signed
  simp

/-- A finite number other than zero is known by its value. -/
theorem eq_of_value (finiteX : x.isFinite = true) (finiteY : y.isFinite = true) (some : value x ≠ 0)
    (same : value x = value y) : x = y := by
  have denotesX := denotes_self finiteX
  have denotesY := denotes_self finiteY
  have valueX := value_of_denotes denotesX
  have valueY := value_of_denotes denotesY
  have positiveX := mantissa_pos finiteX some
  have positiveY := mantissa_pos finiteY (same ▸ some)
  have someX := magnitude_pos positiveX (Binary.ofFloat x).exponent
  have someY := magnitude_pos positiveY (Binary.ofFloat y).exponent
  rw [valueX, valueY] at same
  generalize (Binary.ofFloat x).mantissa = m at *
  generalize (Binary.ofFloat x).exponent = e at *
  generalize (Binary.ofFloat y).mantissa = n at *
  generalize (Binary.ofFloat y).exponent = f at *
  have magnitudes : (m : ℚ) * 2 ^ e = n * 2 ^ f → m = n ∧ e = f :=
    denotesX.canonical.eq_of_value denotesY.canonical positiveX positiveY
  generalize signBit x = negX at *
  generalize signBit y = negY at *
  cases negX <;> cases negY
  · obtain ⟨rfl, rfl⟩ := magnitudes same
    exact denotes_unique denotesX denotesY
  · exact absurd same.symm (signed_ne someY someX)
  · exact absurd same (signed_ne someX someY)
  · obtain ⟨rfl, rfl⟩ := magnitudes (neg_inj.1 same)
    exact denotes_unique denotesX denotesY

/-! ## Whole numbers -/

theorem denominator_pos (b : Binary) : 0 < b.denominator := Nat.two_pow_pos _

/-- A number has no fraction exactly if its value has none. -/
theorem isWhole_iff_value (finite : x.isFinite = true) : isWhole x = true ↔ ∃ n : ℤ, value x = n := by
  have positive := denominator_pos (Binary.ofFloat x)
  have some : ((Binary.ofFloat x).denominator : ℚ) ≠ 0 := Nat.cast_ne_zero.2 positive.ne'
  have magnitude : isWhole x = true ↔
      ∃ n : ℤ, ((Binary.ofFloat x).numerator : ℚ) / (Binary.ofFloat x).denominator = n := by
    unfold isWhole Binary.isWhole
    rw [finite, Bool.true_and, decide_eq_true_iff, ← Nat.dvd_iff_mod_eq_zero]
    constructor
    · rintro ⟨k, whole⟩
      refine ⟨k, ?_⟩
      rw [whole, div_eq_iff some]
      push_cast
      ring
    · rintro ⟨n, whole⟩
      rw [div_eq_iff some] at whole
      have product : ((Binary.ofFloat x).numerator : ℤ) = n * (Binary.ofFloat x).denominator := by
        exact_mod_cast whole
      exact Int.natCast_dvd_natCast.1 ⟨n, by rw [product, mul_comm]⟩
  rw [magnitude]
  unfold value
  dsimp only
  split
  · constructor
    · rintro ⟨n, whole⟩
      exact ⟨-n, by rw [whole, Int.cast_neg]⟩
    · rintro ⟨n, whole⟩
      exact ⟨-n, by rw [Int.cast_neg, ← whole, neg_neg]⟩
  · rfl

theorem floor_magnitude (b : Binary) : ⌊(b.numerator : ℚ) / b.denominator⌋ = (b.floor : ℤ) := by
  rw [Rat.floor_natCast_div_natCast]
  rfl

theorem ceil_magnitude (b : Binary) : ⌈(b.numerator : ℚ) / b.denominator⌉ = (b.ceil : ℤ) := by
  have positive := denominator_pos b
  have some : (0 : ℚ) < b.denominator := Nat.cast_pos.2 positive
  have parts := Nat.div_add_mod (b.numerator + b.denominator - 1) b.denominator
  have small := Nat.mod_lt (b.numerator + b.denominator - 1) positive
  rw [mul_comm] at parts
  rw [Int.ceil_eq_iff]
  unfold Binary.ceil
  generalize (b.numerator + b.denominator - 1) / b.denominator = c at *
  have below : (c : ℤ) * b.denominator < b.numerator + b.denominator := by
    have : c * b.denominator < b.numerator + b.denominator := by omega
    exact_mod_cast this
  have above : b.numerator ≤ c * b.denominator := by omega
  constructor
  · rw [lt_div_iff₀ some]
    have : (c : ℚ) * b.denominator < b.numerator + b.denominator := by exact_mod_cast below
    push_cast
    linarith
  · rw [div_le_iff₀ some]
    exact_mod_cast above

/-- A finite number is taken down as its value is. -/
theorem floor_eq (finite : x.isFinite = true) : floor x = .ok ⌊value x⌋ := by
  unfold floor
  rw [requireFinite_total finite]
  show Except.ok _ = _
  unfold value wholePart
  dsimp only
  cases signBit x with
  | true => rw [if_pos rfl, if_pos rfl, Int.floor_neg, ceil_magnitude]
  | false =>
    rw [if_neg Bool.false_ne_true, if_neg Bool.false_ne_true, if_neg Bool.false_ne_true,
      floor_magnitude]

/-- A finite number is taken up as its value is. -/
theorem ceil_eq_value (finite : x.isFinite = true) : ceil x = .ok ⌈value x⌉ := by
  rw [ceil_eq finite]
  unfold value wholePart
  dsimp only
  cases signBit x with
  | true => rw [if_pos rfl, if_pos rfl, if_pos rfl, Int.ceil_neg, floor_magnitude]
  | false => rw [if_neg Bool.false_ne_true, if_neg Bool.false_ne_true, ceil_magnitude]

/-! ## Places -/

/-- Where a number stands among all numbers: at its value, or at one of the ends if it is infinite. An
undefined number stands nowhere. -/
def place? (x : Float) : Option (WithBot (WithTop ℚ)) :=
  match x.toModel.unpack with
  | .notANumber => none
  | .infinity .negative => some ⊥
  | .infinity .positive => some ⊤
  | .zero _ | .finite _ _ _ _ => some ((value x : WithTop ℚ) : WithBot (WithTop ℚ))

theorem place?_of_finite (finite : x.isFinite = true) :
    place? x = some ((value x : WithTop ℚ) : WithBot (WithTop ℚ)) := by
  have unpacked : x.toModel.unpack.isFinite = true := finite
  unfold place?
  cases read : x.toModel.unpack with
  | notANumber | infinity => rw [read] at unpacked; cases unpacked
  | zero | finite => rfl

/-- A number that is not finite is undefined, or at the lower end and negative, or at the upper end and
positive. -/
theorem infinite_cases (beyond : x.isFinite = false) :
    (place? x = none ∧ ¬ x < 0 ∧ ¬ 0 < x) ∨ (place? x = some ⊥ ∧ x < 0 ∧ ¬ 0 < x) ∨
      (place? x = some ⊤ ∧ ¬ x < 0 ∧ 0 < x) := by
  have zero : (0 : Float).toModel.unpack = .zero .positive := unpack_zeroLiteral
  have unpacked : x.toModel.unpack.isFinite = false := beyond
  rw [lt_iff, lt_iff, zero]
  unfold place?
  generalize x.toModel.unpack = u at unpacked ⊢
  cases u with
  | notANumber => exact .inl ⟨rfl, nofun, nofun⟩
  | infinity s =>
    cases s with
    | negative => exact .inr (.inl ⟨rfl, rfl, nofun⟩)
    | positive => exact .inr (.inr ⟨rfl, nofun, rfl⟩)
  | zero | finite => cases unpacked

/-- A number that is not finite is at most a value exactly if it is negative. -/
theorem lt_zero_iff_place (beyond : x.isFinite = false) (r : ℚ) :
    x < 0 ↔ ∃ a, place? x = some a ∧ a ≤ ((r : WithTop ℚ) : WithBot (WithTop ℚ)) := by
  rcases infinite_cases beyond with ⟨place, sign, _⟩ | ⟨place, sign, _⟩ | ⟨place, sign, _⟩ <;>
    simp [place, sign]

/-- A number that is not finite is at least a value exactly if it is positive. -/
theorem zero_lt_iff_place (beyond : x.isFinite = false) (r : ℚ) :
    0 < x ↔ ∃ a, place? x = some a ∧ ((r : WithTop ℚ) : WithBot (WithTop ℚ)) ≤ a := by
  rcases infinite_cases beyond with ⟨place, _, sign⟩ | ⟨place, _, sign⟩ | ⟨place, _, sign⟩ <;>
    simp [place, sign]

/-- Numbers are ordered as their places. -/
theorem le_iff_place :
    x ≤ y ↔ ∃ a b, place? x = some a ∧ place? y = some b ∧ a ≤ b := by
  by_cases both : x.isFinite = true ∧ y.isFinite = true
  · rw [le_iff_value both.1 both.2, place?_of_finite both.1, place?_of_finite both.2]
    simp
  · rw [le_iff]
    have finiteX : x.isFinite = x.toModel.unpack.isFinite := rfl
    have finiteY : y.isFinite = y.toModel.unpack.isFinite := rfl
    rw [finiteX, finiteY] at both
    unfold place?
    generalize x.toModel.unpack = u at both ⊢
    generalize y.toModel.unpack = v at both ⊢
    -- An undefined number is compared with none, and an infinite one stands at an end.
    cases u with
    | notANumber => exact iff_of_false nofun nofun
    | infinity s =>
      cases v with
      | notANumber => cases s <;> exact iff_of_false nofun nofun
      | infinity t =>
        cases s <;> cases t
        · exact iff_of_true rfl ⟨⊥, ⊥, rfl, rfl, le_rfl⟩
        · exact iff_of_true rfl ⟨⊥, ⊤, rfl, rfl, bot_le⟩
        · exact iff_of_false nofun (by simp)
        · exact iff_of_true rfl ⟨⊤, ⊤, rfl, rfl, le_rfl⟩
      | zero | finite =>
        cases s with
        | negative => exact iff_of_true rfl ⟨⊥, _, rfl, rfl, bot_le⟩
        | positive => exact iff_of_false nofun (by simp)
    | zero | finite =>
      cases v with
      | notANumber => exact iff_of_false nofun nofun
      | infinity t =>
        cases t with
        | negative => exact iff_of_false nofun (by simp)
        | positive => exact iff_of_true rfl ⟨_, ⊤, rfl, rfl, le_top⟩
      | zero | finite => exact absurd ⟨rfl, rfl⟩ both

end WiringQuote.Decimal

namespace WiringQuote.Number

open Decimal

/-- Where a number of either kind stands. -/
def place? : Number → Option (WithBot (WithTop ℚ))
  | .int n => some (((n : ℚ) : WithTop ℚ) : WithBot (WithTop ℚ))
  | .float x => Decimal.place? x

/-- The first number is at most the second, as they compare. -/
def AtMost (q r : Number) : Prop :=
  match r with
  | .int n => q.atMost n = true
  | .float x => q.atMostFloat x = true

variable {q r s : Number}

theorem atMost_int_iff {x : Float} {n : ℤ} : (float x).AtMost (.int n) ↔
    ∃ a, Decimal.place? x = some a ∧ a ≤ (((n : ℚ) : WithTop ℚ) : WithBot (WithTop ℚ)) := by
  unfold AtMost atMost
  dsimp only
  by_cases finite : x.isFinite = true
  · rw [ceil_eq_value finite, place?_of_finite finite]
    simp [Int.ceil_le]
  · have beyond := Bool.eq_false_iff.2 finite
    obtain ⟨fault, refused⟩ := requireFinite_error beyond
    unfold ceil
    rw [refused]
    exact decide_eq_true_iff.trans (lt_zero_iff_place beyond n)

theorem int_atMost_iff {m : ℤ} {y : Float} : (int m).AtMost (.float y) ↔
    ∃ b, Decimal.place? y = some b ∧ (((m : ℚ) : WithTop ℚ) : WithBot (WithTop ℚ)) ≤ b := by
  unfold AtMost atMostFloat
  dsimp only
  by_cases finite : y.isFinite = true
  · rw [floor_eq finite, place?_of_finite finite]
    simp [Int.le_floor]
  · have beyond := Bool.eq_false_iff.2 finite
    obtain ⟨fault, refused⟩ := floor_error beyond
    rw [refused]
    exact decide_eq_true_iff.trans (zero_lt_iff_place beyond m)

/-- Comparing numbers of either kind compares their places. -/
theorem atMost_iff_place :
    q.AtMost r ↔ ∃ a b, q.place? = some a ∧ r.place? = some b ∧ a ≤ b := by
  cases q with
  | int m =>
    cases r with
    | int n => simp [AtMost, atMost, place?]
    | float y =>
      rw [int_atMost_iff]
      simp [place?]
  | float x =>
    cases r with
    | int n =>
      rw [atMost_int_iff]
      simp [place?]
    | float y => exact decide_eq_true_iff.trans le_iff_place

/-- What is at most a smaller number is at most the larger one. -/
theorem AtMost.trans (first : q.AtMost r) (second : r.AtMost s) : q.AtMost s := by
  obtain ⟨a, b, atA, atB, ab⟩ := atMost_iff_place.1 first
  obtain ⟨b', c, again, atC, bc⟩ := atMost_iff_place.1 second
  obtain rfl := Option.some.inj (atB.symm.trans again)
  exact atMost_iff_place.2 ⟨a, c, atA, atC, ab.trans bc⟩

end WiringQuote.Number
