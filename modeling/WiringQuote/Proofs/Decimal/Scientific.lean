import WiringQuote.Proofs.Decimal.Packing
import WiringQuote.Proofs.Decimal.Rounding

/-!
# Reading decimals

What `Float.ofScientific` yields for whole numbers and for hundredths, whether it computes on floats
or exactly.

* `ofScientific_hundredths`: so many hundredths are rounded once, to 53 bits.
* `denotes_ofNat`: a whole number of 53 bits and zeros behind them is read exactly.
-/

namespace WiringQuote.Decimal

open Float.Model UnpackedFloat

/-! ## Results of normal size -/

/-- Carrying over keeps what is denoted canonical. -/
theorem normal_eq_finite {sign : Sign} {r : Nat} {t : Int} (least : 2 ^ 52 ≤ r)
    (most : r < 2 ^ 53) : normal sign r t least = .finite sign r t (by omega) := by
  unfold normal
  rw [if_neg (by omega)]

/-- An exact mantissa with zeros behind its first 53 bits is cut down to them. -/
theorem roundWithAccuracy_exact {sign : Sign} {m k : Nat} {e : Int} (least : 2 ^ 52 ≤ m)
    (most : m < 2 ^ 53) (low : -1074 ≤ e + k) :
    roundWithAccuracy .binary64 sign (m * 2 ^ k) e .exact =
      .finite sign m (e + k) (by omega) := by
  have rounded : roundDiv m 1 = m := by
    have exact := @roundDiv_mul m 1 Nat.one_pos
    rwa [Nat.mul_one] at exact
  rw [roundWithAccuracy_normal (represents_exact _) Nat.one_pos
    (show m * 2 ^ k * 1 = m * (1 * 2 ^ k) by ring) (by omega) (by omega) low]
  unfold normal
  rw [if_neg (by omega)]
  exact finite_congr rounded rfl

/-! ## Whole numbers of 53 bits -/

variable {n j : Nat}

theorem log2_mul_two_pow (nonzero : n ≠ 0) (j : Nat) : (n * 2 ^ j).log2 = n.log2 + j := by
  refine (Nat.log2_eq_iff (Nat.mul_ne_zero nonzero (Nat.two_pow_pos j).ne')).2 ⟨?_, ?_⟩
  · rw [Nat.pow_add]
    exact Nat.mul_le_mul_right _ (Nat.log2_self_le nonzero)
  · rw [Nat.add_right_comm, Nat.pow_add]
    exact Nat.mul_lt_mul_of_pos_right Nat.lt_log2_self (Nat.two_pow_pos j)

/-- A whole number of at most 53 bits, moved up to exactly so many. -/
theorem log2_of_moved (least : 2 ^ 52 ≤ n * 2 ^ j) (most : n * 2 ^ j < 2 ^ 53) :
    n.log2 + j = 52 := by
  have nonzero : n ≠ 0 := by
    rintro rfl
    omega
  rw [← log2_mul_two_pow nonzero, log2_of_bounds least most]

theorem round_moved (least : 2 ^ 52 ≤ n * 2 ^ j) (most : n * 2 ^ j < 2 ^ 53) :
    UnpackedFloat.round .binary64 .positive n 0 = .finite .positive (n * 2 ^ j) (-j) (by omega) := by
  have log := log2_of_moved least most
  have shift : (0 - Format.binary64.targetExponent (totalExponent n 0)).toNat = j := by
    rw [targetExponent_eq]
    omega
  unfold UnpackedFloat.round decreaseExponent
  dsimp only
  rw [shift, Nat.shiftLeft_eq]
  have exact := @roundWithAccuracy_exact .positive (n * 2 ^ j) 0 (0 - j) least most (by omega)
  rw [Nat.pow_zero, Nat.mul_one] at exact
  rw [exact]
  exact finite_congr rfl (by omega)

theorem unpack_toFloat (least : 2 ^ 52 ≤ n * 2 ^ j) (most : n * 2 ^ j < 2 ^ 53) :
    n.toUInt64.toFloat.toModel.unpack = .finite .positive (n * 2 ^ j) (-j) (by omega) := by
  have log := log2_of_moved least most
  have small : n < 2 ^ 53 := by
    have grows : n * 1 ≤ n * 2 ^ j := Nat.mul_le_mul_left n Nat.one_le_two_pow
    omega
  have positive : 0 < n := by
    rcases Nat.eq_zero_or_pos n with rfl | positive
    · omega
    · exact positive
  have word : n.toUInt64.toNat = n := by
    show n % 2 ^ 64 = n
    omega
  have converted : UnpackedFloat.ofUInt64 .binary64 n.toUInt64 =
      .finite (signOf false) (n * 2 ^ j) (-j) (by omega) := by
    unfold UnpackedFloat.ofUInt64 UnpackedFloat.ofNat UnpackedFloat.ofInt UnpackedFloat.normalize
    rw [word, Int.compare_eq_gt.2 (Int.natCast_pos.2 positive)]
    exact round_moved least most
  have canonical : Canonical (n * 2 ^ j) (-j) := ⟨most, by omega, by omega, .inl least⟩
  have packed : n.toUInt64.toFloat =
      .ofModel (.pack (.finite (signOf false) (n * 2 ^ j) (-j) (by omega))) := by
    rw [← converted]
    rfl
  rw [packed]
  exact unpack_of_denotes (denotes_pack canonical _) _

/-! ## Hundredths -/

/-- The quotient is the count of hundredths in units of `2 ^ t`, of which it makes up 53 bits. -/
structure HundredthsScale (n : Nat) (t : Int) : Prop where
  least : 2 ^ 52 * (100 * 2 ^ t.toNat) ≤ n * 2 ^ (-t).toNat
  most : n * 2 ^ (-t).toNat < 2 ^ 53 * (100 * 2 ^ t.toNat)
  low : -1074 ≤ t

theorem HundredthsScale.positive {t : Int} (scale : HundredthsScale n t) : 0 < n := by
  rcases Nat.eq_zero_or_pos n with rfl | positive
  · have some : 0 < 100 * 2 ^ t.toNat := Nat.mul_pos (by decide) (Nat.two_pow_pos _)
    have least := scale.least
    omega
  · exact positive

theorem HundredthsScale.log2_le {t : Int} (scale : HundredthsScale n t) :
    (n.log2 : Int) - 59 ≤ t := by
  have power : 2 ^ (n.log2 + (-t).toNat) < 2 ^ (60 + t.toNat) := by
    calc 2 ^ (n.log2 + (-t).toNat) = 2 ^ n.log2 * 2 ^ (-t).toNat := Nat.pow_add ..
      _ ≤ n * 2 ^ (-t).toNat := Nat.mul_le_mul_right _ (Nat.log2_self_le scale.positive.ne')
      _ < 2 ^ 53 * (100 * 2 ^ t.toNat) := scale.most
      _ ≤ 2 ^ 53 * (2 ^ 7 * 2 ^ t.toNat) :=
        Nat.mul_le_mul_left _ (Nat.mul_le_mul_right _ (by decide))
      _ = 2 ^ (60 + t.toNat) := by ring
  have exponent := (Nat.pow_lt_pow_iff_right (by decide)).1 power
  omega

/-- The mantissa of so many hundredths in units of `2 ^ t`. -/
def scaledHundredths (n : Nat) (t : Int) : Nat :=
  roundDiv (n * 2 ^ (-t).toNat) (100 * 2 ^ t.toNat)

theorem HundredthsScale.le_scaled {t : Int} (scale : HundredthsScale n t) :
    2 ^ 52 ≤ scaledHundredths n t :=
  le_roundDiv (Nat.mul_pos (by decide) (Nat.two_pow_pos _)) scale.least

theorem HundredthsScale.scaled_le {t : Int} (scale : HundredthsScale n t) :
    scaledHundredths n t ≤ 2 ^ 53 :=
  roundDiv_le (Nat.mul_pos (by decide) (Nat.two_pow_pos _)) scale.most.le

/-- Dividing by a hundred, whatever zeros stand behind the mantissas of both sides. -/
theorem div_hundred {t : Int} (scale : HundredthsScale n t) (i j : Nat) (positive : 0 < n * 2 ^ j)
    (hundred : 0 < 100 * 2 ^ i) :
    UnpackedFloat.div .binary64 (.finite .positive (n * 2 ^ j) (-j) positive)
        (.finite .positive (100 * 2 ^ i) (-i) hundred) =
      normal .positive (scaledHundredths n t) t scale.le_scaled := by
  have log := scale.log2_le
  have low := scale.low
  have den : 0 < 100 * 2 ^ t.toNat := Nat.mul_pos (by decide) (Nat.two_pow_pos _)
  have totals : totalExponent (n * 2 ^ j) (-j) - totalExponent (100 * 2 ^ i) (-i) =
      (n.log2 : Int) - 6 := by
    unfold totalExponent
    rw [log2_mul_two_pow scale.positive.ne', log2_mul_two_pow (by decide)]
    have hundred : (100).log2 = 6 := by decide
    rw [hundred]
    omega
  generalize target : min (-(j : Int) - -i) (Format.binary64.targetExponent
    (totalExponent (n * 2 ^ j) (-j) - totalExponent (100 * 2 ^ i) (-i))) = e
  have bound : e ≤ t ∧ e ≤ -j - -i := by
    rw [← target, totals]
    show min _ (max ((n.log2 : Int) - 6 - 53) (-1074)) ≤ t ∧ _
    omega
  -- What is shifted in before the division and out after it makes up for both counts of zeros.
  have exponents : j + (-(j : Int) - -i - e).toNat + t.toNat =
      (-t).toNat + i + (t - e).toNat := by omega
  have same : (n * 2 ^ j) <<< (-(j : Int) - -i - e).toNat * (100 * 2 ^ t.toNat) =
      n * 2 ^ (-t).toNat * (100 * 2 ^ i * 2 ^ (t - e).toNat) := by
    rw [Nat.shiftLeft_eq]
    calc n * 2 ^ j * 2 ^ (-(j : Int) - -i - e).toNat * (100 * 2 ^ t.toNat)
        = n * 100 * 2 ^ (j + (-(j : Int) - -i - e).toNat + t.toNat) := by ring
      _ = n * 100 * 2 ^ ((-t).toNat + i + (t - e).toNat) := by rw [exponents]
      _ = n * 2 ^ (-t).toNat * (100 * 2 ^ i * 2 ^ (t - e).toNat) := by ring
  have reached : e + (t - e).toNat = t := by omega
  unfold UnpackedFloat.div divCore
  dsimp only
  rw [target, show Sign.positive / Sign.positive = Sign.positive from rfl,
    roundWithAccuracy_normal (represents_fraction hundred) den same scale.least scale.most
      (by omega)]
  simp only [reached]
  rfl

/-- Zeros that fill a whole number up to 53 bits. -/
theorem moved_bounds (positive : 0 < n) (small : n < 2 ^ 53) :
    2 ^ 52 ≤ n * 2 ^ (52 - n.log2) ∧ n * 2 ^ (52 - n.log2) < 2 ^ 53 := by
  have log : n.log2 < 53 := (Nat.log2_lt positive.ne').2 small
  have whole : n.log2 + (52 - n.log2) = 52 := by omega
  have moved := log2_mul_two_pow positive.ne' (52 - n.log2)
  rw [whole] at moved
  have nonzero : n * 2 ^ (52 - n.log2) ≠ 0 :=
    Nat.mul_ne_zero positive.ne' (Nat.two_pow_pos _).ne'
  exact (Nat.log2_eq_iff nonzero).1 moved

theorem unpack_hundred : (Float.ofBits 0x4059000000000000).toModel.unpack =
    .finite .positive (100 * 2 ^ 46) (-(46 : Nat)) (by decide) := by
  have denotes : Denotes (Float.ofBits 0x4059000000000000) false (100 * 2 ^ 46) (-(46 : Nat)) := by
    constructor <;> decide +kernel
  exact unpack_of_denotes denotes (by decide)

/-- So many hundredths are rounded once, to 53 bits. -/
theorem ofScientific_hundredths {t : Int} (scale : HundredthsScale n t) :
    Float.ofScientific n true 2 =
      .ofModel (.pack (normal .positive (scaledHundredths n t) t scale.le_scaled)) := by
  have positive := scale.positive
  unfold Float.ofScientific
  split
  · -- Up to 53 bits both sides are floats, which hold as many zeros as fit.
    rename_i small
    obtain ⟨least, most⟩ := moved_bounds positive small.1
    show Float.ofModel (.pack (UnpackedFloat.div .binary64 n.toUInt64.toFloat.toModel.unpack
      (Float.ofBits 0x4059000000000000).toModel.unpack)) = _
    rw [unpack_toFloat least most, unpack_hundred, div_hundred scale]
  · show Float.ofModel (.pack (UnpackedFloat.ofScientific .binary64 n (-2))) = _
    have exact : UnpackedFloat.ofScientific .binary64 n (-2) =
        UnpackedFloat.div .binary64 (.finite .positive (n * 2 ^ 0) (-(0 : Nat)) (by omega))
          (.finite .positive (100 * 2 ^ 0) (-(0 : Nat)) (by decide)) := by
      unfold UnpackedFloat.ofScientific
      have inRange : ¬ (-2 : Int) < -((2 ^ Format.binary64.exponentBits : Int) + n.log2) := by
        show ¬ (-2 : Int) < -(2 ^ 11 + n.log2)
        omega
      have plain : UnpackedFloat.finite .positive (n * 2 ^ 0) (-(0 : Nat)) (by omega) =
          .finite .positive n 0 positive := finite_congr (Nat.mul_one n) rfl
      rw [dif_neg positive.ne', if_neg (by decide), if_neg inRange, if_neg (by decide), plain]
      rfl
    rw [exact, div_hundred scale]

/-- So many hundredths are read with the rounded mantissa, unless that takes one bit more. -/
theorem denotes_ofScientific {t : Int} (scale : HundredthsScale n t) (high : t ≤ 971)
    (fits : scaledHundredths n t < 2 ^ 53) :
    Denotes (Float.ofScientific n true 2) false (scaledHundredths n t) t := by
  have least := scale.le_scaled
  have canonical : Canonical (scaledHundredths n t) t := ⟨fits, scale.low, high, .inl least⟩
  have positive : 0 < scaledHundredths n t := by omega
  have result : normal .positive (scaledHundredths n t) t least =
      .finite (signOf false) (scaledHundredths n t) t positive := normal_eq_finite least fits
  rw [ofScientific_hundredths scale, result]
  exact denotes_pack canonical positive

theorem denotes_ofScientific_carried {t : Int} (scale : HundredthsScale n t) (high : t < 971)
    (carried : scaledHundredths n t = 2 ^ 53) :
    Denotes (Float.ofScientific n true 2) false (2 ^ 52) (t + 1) := by
  have low := scale.low
  have canonical : Canonical (2 ^ 52) (t + 1) := ⟨by decide, by omega, by omega, .inl (by decide)⟩
  have result : normal .positive (scaledHundredths n t) t scale.le_scaled =
      .finite (signOf false) (2 ^ 52) (t + 1) (by decide) := by
    unfold normal
    rw [if_pos carried]
    rfl
  rw [ofScientific_hundredths scale, result]
  exact denotes_pack canonical (by decide)

/-! ## Whole numbers -/

theorem unpack_one : (Float.ofBits 0x3FF0000000000000).toModel.unpack =
    .finite .positive (1 * 2 ^ 52) (-(52 : Nat)) (by decide) := by
  have denotes : Denotes (Float.ofBits 0x3FF0000000000000) false (1 * 2 ^ 52) (-(52 : Nat)) := by
    constructor <;> decide +kernel
  exact unpack_of_denotes denotes (by decide)

variable {m : Nat} {e : Int}

/-- A number of at most 53 bits is multiplied by one. -/
theorem ofNat_of_small (canonical : Canonical m e) (normal : 2 ^ 52 ≤ m)
    (same : n * 2 ^ (-e).toNat = m * 2 ^ e.toNat) (positive : 0 < m) (small : n < 2 ^ 53) :
    Float.ofNat n = .ofModel (.pack (.finite (signOf false) m e positive)) := by
  have bits := canonical.bits
  have low := canonical.least
  have below : e ≤ 0 := by
    by_contra above
    have grows : m * 2 ^ 1 ≤ m * 2 ^ e.toNat :=
      Nat.mul_le_mul_left m (Nat.pow_le_pow_right (by decide) (by omega))
    have none : (-e).toNat = 0 := by omega
    rw [none] at same
    omega
  obtain ⟨j, rfl⟩ : ∃ j : Nat, e = -j := ⟨(-e).toNat, by omega⟩
  have moved : n * 2 ^ j = m := by
    have none : (-(j : Int)).toNat = 0 := by omega
    have some : (- -(j : Int)).toNat = j := by omega
    rwa [none, some, Nat.pow_zero, Nat.mul_one] at same
  subst moved
  have product : UnpackedFloat.mul .binary64 (.finite .positive (n * 2 ^ j) (-j) positive)
      (.finite .positive (1 * 2 ^ 52) (-(52 : Nat)) (by decide)) =
      .finite .positive (n * 2 ^ j) (-j) positive := by
    unfold UnpackedFloat.mul
    dsimp only
    rw [Nat.one_mul, show Sign.positive * Sign.positive = Sign.positive from rfl,
      roundWithAccuracy_exact normal bits (by omega)]
    exact finite_congr rfl (by omega)
  show Float.ofScientific n false 0 = _
  unfold Float.ofScientific
  rw [dif_pos ⟨small, by decide⟩]
  show Float.ofModel (.pack (UnpackedFloat.mul .binary64 n.toUInt64.toFloat.toModel.unpack
    (Float.ofBits 0x3FF0000000000000).toModel.unpack)) = _
  rw [unpack_toFloat normal bits, unpack_one, product]
  rfl

/-- A larger number loses the zeros behind its first 53 bits. -/
theorem ofNat_of_large (canonical : Canonical m e) (normal : 2 ^ 52 ≤ m)
    (same : n * 2 ^ (-e).toNat = m * 2 ^ e.toNat) (positive : 0 < m) (large : 2 ^ 53 ≤ n) :
    Float.ofNat n = .ofModel (.pack (.finite (signOf false) m e positive)) := by
  have bits := canonical.bits
  have above : 0 < e := by
    by_contra below
    have none : e.toNat = 0 := by omega
    rw [none, Nat.pow_zero, Nat.mul_one] at same
    have grows : n * 1 ≤ n * 2 ^ (-e).toNat := Nat.mul_le_mul_left n Nat.one_le_two_pow
    omega
  have whole : n = m * 2 ^ e.toNat := by
    have none : (-e).toNat = 0 := by omega
    rwa [none, Nat.pow_zero, Nat.mul_one] at same
  have moved : n <<< 53 * 10 ^ (0 : Int).toNat = m * 2 ^ (53 + e.toNat) := by
    rw [Nat.shiftLeft_eq, whole, show (0 : Int).toNat = 0 from rfl]
    ring
  have exact : UnpackedFloat.ofScientific .binary64 n 0 = .finite .positive m e positive := by
    have inRange : ¬ (0 : Int) < -((2 ^ Format.binary64.exponentBits : Int) + n.log2) := by
      show ¬ (0 : Int) < -(2 ^ 11 + n.log2)
      omega
    unfold UnpackedFloat.ofScientific UnpackedFloat.mul
    rw [dif_neg (by omega), if_neg (by decide), if_neg inRange, if_pos (Int.le_refl 0)]
    dsimp only
    show roundWithAccuracy .binary64 .positive (n <<< 53 * 10 ^ (0 : Int).toNat) (-53) .exact = _
    rw [moved, roundWithAccuracy_exact normal bits (by omega)]
    exact finite_congr rfl (by omega)
  show Float.ofScientific n false 0 = _
  unfold Float.ofScientific
  rw [dif_neg fun fast => Nat.not_lt.2 large fast.1]
  show Float.ofModel (.pack (UnpackedFloat.ofScientific .binary64 n 0)) = _
  rw [exact]
  rfl

/-- A whole number with 53 bits before zeros, or that zeros fill up to 53 bits, is read exactly. -/
theorem denotes_ofNat (canonical : Canonical m e) (normal : 2 ^ 52 ≤ m)
    (same : n * 2 ^ (-e).toNat = m * 2 ^ e.toNat) : Denotes (Float.ofNat n) false m e := by
  have positive : 0 < m := by omega
  rcases Nat.lt_or_ge n (2 ^ 53) with small | large
  · rw [ofNat_of_small canonical normal same positive small]
    exact denotes_pack canonical positive
  · rw [ofNat_of_large canonical normal same positive large]
    exact denotes_pack canonical positive

end WiringQuote.Decimal
