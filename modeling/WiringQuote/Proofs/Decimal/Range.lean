import WiringQuote.LineItem.Basic
import WiringQuote.Proofs.Decimal.Bounds
import WiringQuote.Proofs.Decimal.Scientific

/-!
# What stays in range

Where conversions between whole numbers and binary64 succeed:

* `ofInt_total`: a whole number below eight times `unitLimit` has a float.
* `isFinite_add_half`: a half can be added to a finite number.
* `roundQuantity_total`, `roundQuantity_error`: a quantity is rounded to whole units if it is finite,
  and not at all if it is not, unless it is below zero.
* `one_le_roundQuantity`: a quantity above zero is at least one when it is rounded.
* `ceilQuotient_total`: groups are counted, and there are at most as many of them as pieces.
-/

namespace WiringQuote.Decimal

open Float.Model UnpackedFloat

variable {x y : Float} {m n r : Nat} {e t : Int}

/-! ## Large mantissas -/

/-- So many units are finite unless their exponent is beyond the largest. -/
theorem isFinite_normal (least : 2 ^ 52 ≤ r) (most : r ≤ 2 ^ 53) (low : -1074 ≤ t)
    (high : t ≤ 970 ∨ t = 971 ∧ r < 2 ^ 53) :
    (Float.ofModel (.pack (normal .positive r t least))).isFinite = true := by
  by_cases carried : r = 2 ^ 53
  · have canonical : Canonical (2 ^ 52) (t + 1) := ⟨by decide, by omega, by omega, .inl (by decide)⟩
    unfold normal
    rw [if_pos carried]
    exact (@denotes_pack false _ _ canonical (by decide)).finite
  · have canonical : Canonical r t := ⟨by omega, low, by omega, .inl least⟩
    rw [normal_eq_finite least (by omega)]
    exact (@denotes_pack false _ _ canonical (by omega)).finite

/-- The first 53 bits of a mantissa, in units of the last of them. -/
theorem sized_bounds (large : 2 ^ 52 ≤ m) :
    2 ^ 52 * 2 ^ (m.log2 - 52) ≤ m ∧ m < 2 ^ 53 * 2 ^ (m.log2 - 52) := by
  have nonzero : m ≠ 0 := by omega
  have bits : 52 ≤ m.log2 := (Nat.le_log2 nonzero).2 large
  rw [← Nat.pow_add, ← Nat.pow_add, show 52 + (m.log2 - 52) = m.log2 by omega,
    show 53 + (m.log2 - 52) = m.log2 + 1 by omega]
  exact ⟨Nat.log2_self_le nonzero, Nat.lt_log2_self⟩

/-- A large mantissa is rounded to its first 53 bits. -/
theorem roundWithAccuracy_large (large : 2 ^ 52 ≤ m) (low : -1074 ≤ e + (m.log2 - 52 : Nat)) :
    roundWithAccuracy .binary64 .positive m e .exact =
      normal .positive (roundDiv m (2 ^ (m.log2 - 52))) (e + (m.log2 - 52 : Nat))
        (le_roundDiv (Nat.two_pow_pos _) (sized_bounds large).1) :=
  roundWithAccuracy_normal (represents_exact m) (Nat.two_pow_pos _) (by rw [Nat.one_mul])
    (sized_bounds large).1 (sized_bounds large).2 low

theorem isFinite_large (large : 2 ^ 52 ≤ m) (low : -1074 ≤ e + (m.log2 - 52 : Nat))
    (high : e + (m.log2 - 52 : Nat) ≤ 970) :
    (Float.ofModel (.pack (roundWithAccuracy .binary64 .positive m e .exact))).isFinite = true := by
  rw [roundWithAccuracy_large large low]
  exact isFinite_normal _ (roundDiv_le (Nat.two_pow_pos _) (sized_bounds large).2.le) low (.inl high)

/-! ## Floats of whole numbers -/

def unitBits : Nat := 1020

/-- So many units, and a few times as many, are in the range of binary64. -/
def unitLimit : Nat := 2 ^ unitBits

theorem unitLimit_pos : 0 < unitLimit := Nat.two_pow_pos _

theorem log2_of_small (positive : 0 < n) (small : n < 8 * unitLimit) :
    n.log2 < unitBits + 3 := by
  unfold unitLimit at small
  rw [Nat.log2_lt positive.ne', Nat.pow_add]
  omega

theorem denotes_ofNat_of_few (positive : 0 < n) (few : n < 2 ^ 53) :
    Denotes (Float.ofNat n) false (n * 2 ^ (52 - n.log2)) (-(52 - n.log2 : Nat)) := by
  obtain ⟨least, most⟩ := moved_bounds positive few
  have canonical : Canonical (n * 2 ^ (52 - n.log2)) (-(52 - n.log2 : Nat)) :=
    ⟨most, by omega, by omega, .inl least⟩
  refine denotes_ofNat canonical least ?_
  rw [show (- -((52 - n.log2 : Nat) : Int)).toNat = 52 - n.log2 by omega,
    show (-((52 - n.log2 : Nat) : Int)).toNat = 0 by omega, Nat.pow_zero, Nat.mul_one]

theorem ofNat_of_many (many : 2 ^ 53 ≤ n) : Float.ofNat n =
    .ofModel (.pack (roundWithAccuracy .binary64 .positive (n * 2 ^ 53) (-53) .exact)) := by
  have read : UnpackedFloat.ofScientific .binary64 n 0 =
      roundWithAccuracy .binary64 .positive (n * 2 ^ 53) (-53) .exact := by
    have inRange : ¬ (0 : Int) < -((2 ^ Format.binary64.exponentBits : Int) + n.log2) := by
      show ¬ (0 : Int) < -(2 ^ 11 + n.log2)
      omega
    unfold UnpackedFloat.ofScientific
    rw [dif_neg (by omega), if_neg (by decide), if_neg inRange, if_pos (Int.le_refl 0)]
    show roundWithAccuracy .binary64 .positive (n <<< 53 * 10 ^ (0 : Int).toNat) (-53) .exact = _
    rw [Nat.shiftLeft_eq, show (10 : Nat) ^ (0 : Int).toNat = 1 from rfl, Nat.mul_one]
  show Float.ofScientific n false 0 = _
  unfold Float.ofScientific
  rw [dif_neg fun fast => Nat.not_lt.2 many fast.1]
  show Float.ofModel (.pack (UnpackedFloat.ofScientific .binary64 n 0)) = _
  rw [read]

theorem isFinite_ofNat (small : n < 8 * unitLimit) : (Float.ofNat n).isFinite = true := by
  rcases Nat.eq_zero_or_pos n with rfl | positive
  · decide +kernel
  rcases Nat.lt_or_ge n (2 ^ 53) with few | many
  · exact (denotes_ofNat_of_few positive few).finite
  · have log := log2_of_small positive small
    unfold unitBits at log
    have bits : 53 ≤ n.log2 := (Nat.le_log2 positive.ne').2 many
    have moved : (n * 2 ^ 53).log2 = n.log2 + 53 := log2_mul_two_pow positive.ne' 53
    rw [ofNat_of_many many]
    exact isFinite_large (by omega) (by omega) (by omega)

/-- A whole number below eight times the limit has a float. -/
theorem ofInt_total (small : n < 8 * unitLimit) : ∃ x, ofInt n = .ok x := by
  have finite : (Float.ofInt n).isFinite = true := isFinite_ofNat small
  exact ⟨Float.ofInt n, if_pos finite⟩

/-! ## Half a unit more -/

theorem unpack_half : (0.5 : Float).toModel.unpack =
    .finite .positive (2 ^ 52) (-53) (by decide) := by
  have denotes : Denotes (0.5 : Float) false (2 ^ 52) (-53) := by
    constructor <;> decide +kernel
  exact unpack_of_denotes denotes (by decide)

/-- The mantissa of a number and a half in units of the smaller of their last places. -/
def halfMore (m : Nat) (e : Int) : Nat :=
  m * 2 ^ (e - min e (-53)).toNat + 2 ^ 52 * 2 ^ (-53 - min e (-53)).toNat

theorem add_half (positive : 0 < m) : UnpackedFloat.add .binary64 (.finite .positive m e positive)
      (.finite .positive (2 ^ 52) (-53) (by decide)) =
    UnpackedFloat.round .binary64 .positive (halfMore m e) (min e (-53)) := by
  have some : (0 : Int) < halfMore m e := by
    unfold halfMore
    have half : 0 < 2 ^ 52 * 2 ^ (-53 - min e (-53)).toNat :=
      Nat.mul_pos (by decide) (Nat.two_pow_pos _)
    omega
  unfold UnpackedFloat.add decreaseExponent
  dsimp only
  rw [Nat.shiftLeft_eq, Nat.shiftLeft_eq]
  show UnpackedFloat.normalize .binary64 (halfMore m e : Int) (min e (-53)) .positive = _
  unfold UnpackedFloat.normalize
  rw [Int.compare_eq_gt.2 some]
  rfl

/-- A mantissa that is large enough as it is, is rounded as it is. -/
theorem round_large (large : 2 ^ 52 ≤ m) : UnpackedFloat.round .binary64 .positive m e =
    roundWithAccuracy .binary64 .positive m e .exact := by
  have bits : 52 ≤ m.log2 := (Nat.le_log2 (by omega)).2 large
  have shift : (e - Format.binary64.targetExponent (totalExponent m e)).toNat = 0 := by
    rw [targetExponent_eq]
    omega
  unfold UnpackedFloat.round decreaseExponent
  dsimp only
  rw [shift, Nat.shiftLeft_zero]
  congr 1
  omega

/-- Half a unit is lost on a number with a last place of a unit or more. -/
theorem halfMore_of_large (normal : 2 ^ 52 ≤ m) (bits : m < 2 ^ 53) (above : 1 ≤ e) :
    (halfMore m e).log2 - 52 = (e + 53).toNat ∧ roundDiv (halfMore m e) (2 ^ (e + 53).toNat) = m := by
  have smaller : min e (-53) = -53 := by omega
  have whole : halfMore m e = m * 2 ^ (e + 53).toNat + 2 ^ 52 := by
    unfold halfMore
    rw [smaller]
    simp
  have unit : 2 ^ 54 ≤ 2 ^ (e + 53).toNat := Nat.pow_le_pow_right (by decide) (by omega)
  have log : (halfMore m e).log2 = 52 + (e + 53).toNat := by
    refine log2_of_bounds ?_ ?_
    · rw [whole, Nat.pow_add]
      exact Nat.le_add_right_of_le (Nat.mul_le_mul_right _ normal)
    · have next : (m + 1) * 2 ^ (e + 53).toNat ≤ 2 ^ 53 * 2 ^ (e + 53).toNat :=
        Nat.mul_le_mul_right _ bits
      rw [whole, show 52 + (e + 53).toNat + 1 = 53 + (e + 53).toNat by omega, Nat.pow_add]
      rw [Nat.add_mul, Nat.one_mul] at next
      omega
  refine ⟨by omega, ?_⟩
  rw [whole]
  exact roundDiv_of_near (by omega) (by omega)

/-- The sum of a small number and a half is small. -/
theorem log2_halfMore_le (bits : m < 2 ^ 53) (below : e ≤ 0) :
    min e (-53) + ((halfMore m e).log2 : Int) ≤ 53 := by
  have first : m * 2 ^ (e - min e (-53)).toNat ≤ 2 ^ (53 - min e (-53)).toNat := by
    calc m * 2 ^ (e - min e (-53)).toNat ≤ 2 ^ 53 * 2 ^ (e - min e (-53)).toNat :=
          Nat.mul_le_mul_right _ bits.le
      _ = 2 ^ (53 + (e - min e (-53)).toNat) := (Nat.pow_add ..).symm
      _ ≤ 2 ^ (53 - min e (-53)).toNat := Nat.pow_le_pow_right (by decide) (by omega)
  have second : 2 ^ 52 * 2 ^ (-53 - min e (-53)).toNat < 2 ^ (53 - min e (-53)).toNat := by
    rw [← Nat.pow_add]
    exact Nat.pow_lt_pow_right (by decide) (by omega)
  have log : (halfMore m e).log2 < (53 - min e (-53)).toNat + 1 := by
    have some : halfMore m e ≠ 0 := by
      have half := Nat.mul_pos (show 0 < 2 ^ 52 by decide)
        (Nat.two_pow_pos (-53 - min e (-53)).toNat)
      unfold halfMore
      omega
    rw [Nat.log2_lt some, Nat.pow_succ]
    unfold halfMore
    omega
  omega

theorem le_halfMore (m : Nat) (e : Int) : 2 ^ 52 ≤ halfMore m e := by
  have half : 2 ^ 52 * 1 ≤ 2 ^ 52 * 2 ^ (-53 - min e (-53)).toNat :=
    Nat.mul_le_mul_left _ Nat.one_le_two_pow
  unfold halfMore
  omega

/-- Half a unit more than a finite number is finite. -/
theorem isFinite_add_half (denotes : Denotes x false m e) (positive : 0 < m) :
    (x + 0.5).isFinite = true := by
  obtain ⟨bits, least, most, shape⟩ := denotes.canonical
  have sum : x + 0.5 = Float.ofModel
      (.pack (roundWithAccuracy .binary64 .positive (halfMore m e) (min e (-53)) .exact)) := by
    show Float.ofModel (.pack (UnpackedFloat.add .binary64 x.toModel.unpack
      (0.5 : Float).toModel.unpack)) = _
    rw [unpack_of_denotes denotes positive, unpack_half]
    show Float.ofModel (.pack (UnpackedFloat.add .binary64 (.finite .positive m e positive)
      (.finite .positive (2 ^ 52) (-53) (by decide)))) = _
    rw [add_half, round_large (le_halfMore m e)]
  rw [sum]
  by_cases below : e ≤ 0
  · have log := log2_halfMore_le bits below
    exact isFinite_large (le_halfMore m e) (by omega) (by omega)
  · obtain ⟨scale, same⟩ := halfMore_of_large (by omega) bits (by omega : 1 ≤ e)
    rw [roundWithAccuracy_large (le_halfMore m e) (by omega)]
    refine isFinite_normal _ ?_ (by omega) ?_
    · rw [scale, same]
      omega
    · rw [scale, same]
      omega

theorem isFinite_add_half_of_not (beyond : x.isFinite = false) : (x + 0.5).isFinite = false := by
  have unpacked : x.toModel.unpack.isFinite = false := beyond
  show (Float.ofModel (.pack (UnpackedFloat.add .binary64 x.toModel.unpack
    (0.5 : Float).toModel.unpack))).isFinite = false
  rw [unpack_half]
  cases kind : x.toModel.unpack with
  | infinity sign => cases sign <;> decide +kernel
  | notANumber => decide +kernel
  | zero sign => rw [kind] at unpacked; cases unpacked
  | finite sign m e positive => rw [kind] at unpacked; cases unpacked

/-! ## Rounding to whole units -/

theorem le_of_lt (less : x < y) : x ≤ y := by
  rw [lt_iff] at less
  rw [le_iff, less]
  rfl

theorem isNumber_of_finite (finite : x.isFinite = true) : x.isNaN = false := by
  have unpacked : x.toModel.unpack.isFinite = true := finite
  show x.toModel.unpack.isNaN = false
  cases kind : x.toModel.unpack with
  | notANumber => rw [kind] at unpacked; cases unpacked
  | _ => rfl

theorem requireFinite_total (finite : x.isFinite = true) : requireFinite x = .ok () := by
  unfold requireFinite
  rw [isNumber_of_finite finite, finite]
  rfl

theorem requireFinite_error (beyond : x.isFinite = false) :
    ∃ fault, requireFinite x = .error fault := by
  unfold requireFinite
  rw [beyond]
  cases x.isNaN with
  | true => exact ⟨.undefined, rfl⟩
  | false => exact ⟨.infinite, rfl⟩

theorem ceil_eq (finite : x.isFinite = true) : ceil x =
    .ok (if signBit x then wholePart x else (Binary.ofFloat x).ceil) := by
  unfold ceil
  rw [requireFinite_total finite]
  rfl

theorem floor_total (finite : x.isFinite = true) : ∃ n, floor x = .ok n := by
  unfold floor
  rw [requireFinite_total finite]
  exact ⟨_, rfl⟩

theorem floor_error (beyond : x.isFinite = false) : ∃ fault, floor x = .error fault := by
  obtain ⟨fault, refused⟩ := requireFinite_error beyond
  unfold floor
  rw [refused]
  exact ⟨fault, rfl⟩

/-- Only positive numbers are taken up to more than zero. -/
theorem denotes_of_not_atMost (finite : x.isFinite = true)
    (above : (Number.float x).atMost 0 = false) :
    ∃ m e, Denotes x false m e ∧ 0 < m := by
  have denotes := denotes_self finite
  have taken : ¬ (if signBit x then wholePart x else ((Binary.ofFloat x).ceil : Int)) ≤ 0 := by
    unfold Number.atMost at above
    dsimp only at above
    rw [ceil_eq finite] at above
    exact of_decide_eq_false above
  cases sign : signBit x with
  | true =>
    rw [sign, if_pos rfl] at taken
    unfold wholePart at taken
    rw [sign, if_pos rfl] at taken
    omega
  | false =>
    rw [sign] at denotes taken
    refine ⟨_, _, denotes, Nat.pos_of_ne_zero fun none => taken ?_⟩
    have zero : (Binary.ofFloat x).ceil = 0 := by
      unfold Binary.ceil Binary.numerator
      rw [none, Nat.zero_mul, Nat.zero_add]
      exact Nat.div_eq_of_lt (Nat.sub_lt (Nat.two_pow_pos _) Nat.one_pos)
    rw [zero]
    exact Int.le_refl 0

/-- A finite quantity is rounded to whole units. -/
theorem roundQuantity_total (finite : x.isFinite = true) :
    ∃ n : Nat, roundQuantity (.float x) = .ok n := by
  unfold roundQuantity
  cases above : (Number.float x).atMost 0 with
  | true => exact ⟨0, rfl⟩
  | false =>
    obtain ⟨m, e, denotes, positive⟩ := denotes_of_not_atMost finite above
    obtain ⟨n, taken⟩ := floor_total (isFinite_add_half denotes positive)
    refine ⟨(max 1 n).toNat, ?_⟩
    show (floor (x + 0.5)).map (fun n => max 1 n) = _
    rw [taken]
    show Except.ok (max 1 n) = Except.ok ((max 1 n).toNat : Int)
    rw [Int.toNat_of_nonneg (by omega)]

/-- A number that is at most zero when it is taken up is at most zero. -/
theorem le_zero_of_atMost (atMost : (Number.float x).atMost 0 = true) : x ≤ 0 := by
  unfold Number.atMost at atMost
  dsimp only at atMost
  cases finite : x.isFinite with
  | true =>
    rw [ceil_eq finite] at atMost
    have taken := of_decide_eq_true atMost
    rw [le_zero_iff (denotes_self finite)]
    cases sign : signBit x with
    | true => exact .inl rfl
    | false =>
      right
      by_contra some
      rw [sign] at taken
      have least : 0 < (Binary.ofFloat x).ceil := by
        have positive := Nat.mul_pos (Nat.pos_of_ne_zero some)
          (Nat.two_pow_pos (Binary.ofFloat x).exponent.toNat)
        have unit := Nat.two_pow_pos (-(Binary.ofFloat x).exponent).toNat
        refine Nat.div_pos ?_ unit
        show 2 ^ _ ≤ (Binary.ofFloat x).mantissa * 2 ^ _ + 2 ^ _ - 1
        omega
      exact absurd (Int.ofNat_lt.2 least) (Int.not_lt.2 taken)
  | false =>
    obtain ⟨fault, refused⟩ := requireFinite_error finite
    have undefined : ceil x = .error fault := by
      unfold ceil
      rw [refused]
      rfl
    rw [undefined] at atMost
    exact le_of_lt (of_decide_eq_true atMost)

theorem atMost_eq_false (above : ¬ x ≤ 0) : (Number.float x).atMost 0 = false := by
  rw [Bool.eq_false_iff]
  exact fun atMost => above (le_zero_of_atMost atMost)

/-- A quantity above zero is at least one when it is rounded. -/
theorem one_le_roundQuantity (above : ¬ x ≤ 0) {n : Int}
    (rounded : roundQuantity (.float x) = .ok n) : 1 ≤ n := by
  unfold roundQuantity at rounded
  rw [atMost_eq_false above] at rounded
  have rounded : (floor (x + 0.5)).map (fun n => max 1 n) = .ok n := rounded
  cases taken : floor (x + 0.5) with
  | error fault =>
    rw [taken] at rounded
    cases rounded
  | ok k =>
    rw [taken] at rounded
    cases rounded
    exact Int.le_max_left 1 k

/-- A quantity above zero that is not finite is not rounded. -/
theorem roundQuantity_error (beyond : x.isFinite = false) (above : ¬ x ≤ 0) :
    ∃ fault, roundQuantity (.float x) = .error fault := by
  obtain ⟨fault, refused⟩ := floor_error (isFinite_add_half_of_not beyond)
  refine ⟨fault, ?_⟩
  unfold roundQuantity
  rw [atMost_eq_false above]
  show (floor (x + 0.5)).map (fun n => max 1 n) = _
  rw [refused]
  rfl

/-! ## Counting groups -/

/-- A rounded share of at most a half of a number is at most the number. -/
theorem roundDiv_mul_le {num den unit : Nat} (two : 2 ≤ den) (positive : 0 < unit) :
    roundDiv num (den * unit) * unit ≤ num := by
  have whole : 0 < den * unit := Nat.mul_pos (by omega) positive
  have near := (@roundDiv_near num (den * unit) whole).1
  generalize roundDiv num (den * unit) = rounded at near ⊢
  rcases Nat.eq_zero_or_pos rounded with rfl | some
  · omega
  · have once : 1 * (den * unit) ≤ rounded * (den * unit) := Nat.mul_le_mul_right _ some
    have twice : 2 * (rounded * unit) ≤ den * (rounded * unit) := Nat.mul_le_mul_right _ two
    have same : rounded * (den * unit) = den * (rounded * unit) := Nat.mul_left_comm ..
    omega

theorem numerator_le {num den : Nat} (two : 2 ≤ den) :
    (Quotient.rounded num den).numerator ≤ num * (Quotient.rounded num den).denominator :=
  roundDiv_mul_le two (Nat.two_pow_pos _)

theorem lt_mul_of_le {top bottom limit : Nat} (small : n < 8 * unitLimit) (most : top ≤ n * bottom)
    (positive : 0 < bottom) (enough : 8 * unitLimit ≤ limit) : top < bottom * limit := by
  calc top ≤ n * bottom := most
    _ < limit * bottom := Nat.mul_lt_mul_of_pos_right (Nat.lt_of_lt_of_le small enough) positive
    _ = bottom * limit := Nat.mul_comm ..

/-- Groups of two pieces or more are counted, and there are at most as many of them as pieces. -/
theorem ceilQuotient_total {num den : Nat} (two : 2 ≤ den) (small : num < 8 * unitLimit) :
    ∃ count : Nat, ceilQuotient num den = .ok count ∧ count ≤ num := by
  rcases Nat.eq_zero_or_pos num with rfl | positive
  · exact ⟨0, rfl, Nat.le_refl 0⟩
  have bound : (Quotient.rounded num den).numerator ≤
      num * (Quotient.rounded num den).denominator := numerator_le two
  have unit : 0 < (Quotient.rounded num den).denominator := Nat.two_pow_pos _
  have inRange : (Quotient.rounded num den).inRange = true := by
    exact decide_eq_true (lt_mul_of_le small bound unit (by decide +kernel))
  refine ⟨(Quotient.rounded num den).ceil, ?_, ?_⟩
  · unfold ceilQuotient
    dsimp only
    rw [Int.natAbs_natCast, inRange, if_neg (by omega), if_neg (by decide), if_neg (by omega)]
  · unfold Quotient.ceil
    rw [Nat.div_le_iff_le_mul_add_pred unit, Nat.mul_comm]
    omega

end WiringQuote.Decimal
