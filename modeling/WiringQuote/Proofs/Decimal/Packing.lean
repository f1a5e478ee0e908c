import Mathlib.Tactic.Ring
import WiringQuote.Decimal.Binary

/-!
# The bits of a finite number

`Denotes x negative m e`: the finite number `x` has that sign and the magnitude `m * 2 ^ e`.

* `denotes_unique`: a finite number is known by its sign, its mantissa and its exponent.
* `unpack_of_denotes`, `denotes_pack`: binary64 arithmetic unpacks and packs these three.
-/

namespace WiringQuote.Decimal

open Float.Model UnpackedFloat

/-! ## Fields -/

theorem toNat_unpackMantissa (b : BitVec 64) :
    (@unpackMantissa Format.binary64 b).toNat = b.toNat % 2 ^ 52 := by
  simp [unpackMantissa, BitVec.extractLsb_toNat]

theorem toNat_unpackExponent (b : BitVec 64) :
    (@unpackExponent Format.binary64 b).toNat = b.toNat / 2 ^ 52 % 2 ^ 11 := by
  simp [unpackExponent, BitVec.extractLsb_toNat, Nat.shiftRight_eq_div_pow]

theorem toNat_unpackSign (b : BitVec 64) :
    (@unpackSign Format.binary64 b).toNat = b.toNat / 2 ^ 63 := by
  have small : b.toNat < 2 ^ 64 := b.isLt
  show (BitVec.extractLsb 63 63 b).toNat = _
  rw [BitVec.extractLsb_toNat, Nat.shiftRight_eq_div_pow]
  omega

theorem toNat_packComponents (sign : Sign) (exponent : BitVec 11) (mantissa : BitVec 52) :
    (packComponents Format.binary64 sign exponent mantissa).toNat =
      sign.toBitVec.toNat * 2 ^ 63 + exponent.toNat * 2 ^ 52 + mantissa.toNat := by
  show ((sign.toBitVec ++ exponent) ++ mantissa).toNat = _
  rw [BitVec.toNat_append, ← Nat.shiftLeft_add_eq_or_of_lt mantissa.isLt, BitVec.toNat_append,
    ← Nat.shiftLeft_add_eq_or_of_lt exponent.isLt, Nat.shiftLeft_eq, Nat.shiftLeft_eq]
  omega

/-- The sign with a sign bit. -/
def signOf (negative : Bool) : Sign := if negative then .negative else .positive

theorem finite_congr {sign : Sign} {m n : Nat} {e f : Int} {mPos : 0 < m} {nPos : 0 < n}
    (mantissa : m = n) (exponent : e = f) :
    UnpackedFloat.finite sign m e mPos = .finite sign n f nPos := by
  subst mantissa exponent
  rfl

theorem ofBitVec_unpackSign (b : BitVec 64) :
    Sign.ofBitVec (@unpackSign Format.binary64 b) = signOf (decide (b.toNat / 2 ^ 63 = 1)) := by
  have small : b.toNat < 2 ^ 64 := b.isLt
  have zero : @unpackSign Format.binary64 b = 0#1 ↔ b.toNat / 2 ^ 63 = 0 := by
    rw [← BitVec.toNat_inj, toNat_unpackSign]
    rfl
  unfold Sign.ofBitVec signOf
  simp only [zero, decide_eq_true_eq]
  split <;> split <;> first | rfl | omega

/-- The leading bit of a normal mantissa, which the bits leave out. -/
theorem toNat_implicitBit (mantissa : BitVec 52) :
    (1#1 ++ mantissa).toNat = 2 ^ 52 + mantissa.toNat := by
  rw [BitVec.toNat_append, ← Nat.shiftLeft_add_eq_or_of_lt mantissa.isLt, Nat.shiftLeft_eq]
  rfl

/-! ## Unpacking -/

section Unpacking

variable (x : Float)

/-- The exponent field of the bits. -/
def exponentField : Nat := x.toBits.toNat / 2 ^ 52 % 2 ^ 11

/-- The fraction field of the bits. -/
def fraction : Nat := x.toBits.toNat % 2 ^ 52

theorem signBit_eq : signBit x = decide (x.toBits.toNat / 2 ^ 63 = 1) := rfl

theorem mantissa_eq : (Binary.ofFloat x).mantissa =
    if exponentField x = 0 then fraction x else 2 ^ 52 + fraction x := by
  have power : Nat.pow 2 52 = 2 ^ 52 := rfl
  have range : Nat.pow 2 11 = 2 ^ 11 := rfl
  unfold Binary.ofFloat exponentField fraction
  dsimp only
  rw [power, range]
  split <;> rfl

theorem exponent_eq : (Binary.ofFloat x).exponent =
    if exponentField x = 0 then -1074 else (exponentField x : Int) - 1075 := by
  have power : Nat.pow 2 52 = 2 ^ 52 := rfl
  have range : Nat.pow 2 11 = 2 ^ 11 := rfl
  unfold Binary.ofFloat exponentField
  dsimp only
  rw [power, range]
  split <;> rfl

theorem exponent_isOnes : @unpackExponent Format.binary64 x.toModel.toBits.toBitVec = -1#11 ↔
    exponentField x = 2047 := by
  rw [← BitVec.toNat_inj, toNat_unpackExponent]
  rfl

theorem exponent_isZero : @unpackExponent Format.binary64 x.toModel.toBits.toBitVec = 0#11 ↔
    exponentField x = 0 := by
  rw [← BitVec.toNat_inj, toNat_unpackExponent]
  rfl

theorem fraction_isZero : @unpackMantissa Format.binary64 x.toModel.toBits.toBitVec = 0#52 ↔
    fraction x = 0 := by
  rw [← BitVec.toNat_inj, toNat_unpackMantissa]
  rfl

/-- What the bits of a number stand for. -/
theorem unpack_eq : x.toModel.unpack =
    if exponentField x = 2047 then
      if fraction x = 0 then .infinity (signOf (signBit x)) else .notANumber
    else if some : (Binary.ofFloat x).mantissa = 0 then .zero (signOf (signBit x))
    else .finite (signOf (signBit x)) (Binary.ofFloat x).mantissa (Binary.ofFloat x).exponent
      (Nat.pos_of_ne_zero some) := by
  have mantissa := mantissa_eq x
  have exponent := exponent_eq x
  have sign : Sign.ofBitVec (@unpackSign Format.binary64 x.toModel.toBits.toBitVec) =
      signOf (signBit x) := ofBitVec_unpackSign _
  have field : (@unpackExponent Format.binary64 x.toModel.toBits.toBitVec).toNat =
      exponentField x := toNat_unpackExponent _
  have bits : (@unpackMantissa Format.binary64 x.toModel.toBits.toBitVec).toNat =
      fraction x := toNat_unpackMantissa _
  unfold Float.Model.unpack UnpackedFloat.unpack
  dsimp only
  rw [sign]
  by_cases ones : exponentField x = 2047
  · rw [if_pos ones]
    refine (if_pos ((exponent_isOnes x).2 ones)).trans ?_
    by_cases none : fraction x = 0
    · rw [if_pos none]
      exact if_pos ((fraction_isZero x).2 none)
    · rw [if_neg none]
      exact if_neg fun zero => none ((fraction_isZero x).1 zero)
  · rw [if_neg ones]
    refine (if_neg fun all => ones ((exponent_isOnes x).1 all)).trans ?_
    by_cases subnormal : exponentField x = 0
    · rw [if_pos subnormal] at mantissa exponent
      refine (if_pos ((exponent_isZero x).2 subnormal)).trans ?_
      by_cases none : fraction x = 0
      · rw [dif_pos (mantissa.trans none)]
        exact dif_pos ((fraction_isZero x).2 none)
      · rw [dif_neg fun zero => none (mantissa.symm.trans zero)]
        refine (dif_neg fun zero => none ((fraction_isZero x).1 zero)).trans ?_
        refine finite_congr (bits.trans mantissa.symm) ?_
        rw [exponent, field, subnormal]
        rfl
    · rw [if_neg subnormal] at mantissa exponent
      have some : (Binary.ofFloat x).mantissa ≠ 0 := by omega
      rw [dif_neg some]
      refine (if_neg fun zero => subnormal ((exponent_isZero x).1 zero)).trans ?_
      refine finite_congr ?_ ?_
      · rw [mantissa, ← bits]
        exact toNat_implicitBit _
      · rw [exponent, field]
        rfl

theorem isFinite_iff : x.isFinite = true ↔ exponentField x ≠ 2047 := by
  show x.toModel.unpack.isFinite = true ↔ exponentField x ≠ 2047
  rw [unpack_eq]
  by_cases ones : exponentField x = 2047
  · rw [if_pos ones]
    refine ⟨fun finite => ?_, fun other => absurd ones other⟩
    by_cases none : fraction x = 0
    · rw [if_pos none] at finite
      cases finite
    · rw [if_neg none] at finite
      cases finite
  · rw [if_neg ones]
    refine ⟨fun _ => ones, fun _ => ?_⟩
    by_cases none : (Binary.ofFloat x).mantissa = 0
    · rw [dif_pos none]
      rfl
    · rw [dif_neg none]
      rfl

end Unpacking

/-! ## Finite numbers -/

/-- The finite number has that sign and the magnitude `m * 2 ^ e`. -/
structure Denotes (x : Float) (negative : Bool) (m : Nat) (e : Int) : Prop where
  finite : x.isFinite = true
  sign : signBit x = negative
  mantissa : (Binary.ofFloat x).mantissa = m
  exponent : (Binary.ofFloat x).exponent = e

/-- The mantissas and exponents of finite numbers: 53 bits, fewer only with the least exponent. -/
structure Canonical (m : Nat) (e : Int) : Prop where
  bits : m < 2 ^ 53
  least : -1074 ≤ e
  most : e ≤ 971
  normal : 2 ^ 52 ≤ m ∨ e = -1074

theorem denotes_self {x : Float} (finite : x.isFinite = true) :
    Denotes x (signBit x) (Binary.ofFloat x).mantissa (Binary.ofFloat x).exponent :=
  ⟨finite, rfl, rfl, rfl⟩

variable {x y : Float} {negative : Bool} {m : Nat} {e : Int}

theorem Denotes.canonical (denotes : Denotes x negative m e) : Canonical m e := by
  have finite := (isFinite_iff x).1 denotes.finite
  have mantissa := mantissa_eq x
  have exponent := exponent_eq x
  have field : exponentField x < 2 ^ 11 := Nat.mod_lt _ (by decide)
  have bits : fraction x < 2 ^ 52 := Nat.mod_lt _ (by decide)
  rw [denotes.mantissa] at mantissa
  rw [denotes.exponent] at exponent
  split at mantissa
  · rename_i subnormal
    rw [if_pos subnormal] at exponent
    exact ⟨by omega, by omega, by omega, .inr exponent⟩
  · rename_i normal
    rw [if_neg normal] at exponent
    exact ⟨by omega, by omega, by omega, .inl (by omega)⟩

theorem bits_eq (x : Float) : x.toBits.toNat =
    (if signBit x then 2 ^ 63 else 0) + exponentField x * 2 ^ 52 + fraction x := by
  have small : x.toBits.toNat < 2 ^ 64 := x.toBits.toNat_lt
  rw [signBit_eq]
  unfold exponentField fraction
  simp only [decide_eq_true_eq]
  split <;> omega

theorem eq_of_bits (same : x.toBits.toNat = y.toBits.toNat) : x = y := by
  obtain ⟨⟨bitsX, validX⟩⟩ := x
  obtain ⟨⟨bitsY, validY⟩⟩ := y
  have bits : bitsX = bitsY := UInt64.toNat_inj.1 same
  subst bits
  rfl

/-- A finite number is known by its sign, its mantissa and its exponent. -/
theorem denotes_unique (left : Denotes x negative m e) (right : Denotes y negative m e) :
    x = y := by
  have bitsX : fraction x < 2 ^ 52 := Nat.mod_lt _ (by decide)
  have bitsY : fraction y < 2 ^ 52 := Nat.mod_lt _ (by decide)
  have mantissa : (Binary.ofFloat x).mantissa = (Binary.ofFloat y).mantissa := by
    rw [left.mantissa, right.mantissa]
  have exponent : (Binary.ofFloat x).exponent = (Binary.ofFloat y).exponent := by
    rw [left.exponent, right.exponent]
  rw [mantissa_eq, mantissa_eq] at mantissa
  rw [exponent_eq, exponent_eq] at exponent
  have fields : exponentField x = exponentField y ∧ fraction x = fraction y := by
    split at mantissa <;> split at mantissa <;> simp_all
    omega
  refine eq_of_bits ?_
  rw [bits_eq, bits_eq, left.sign, right.sign, fields.1, fields.2]

theorem unpack_of_denotes (denotes : Denotes x negative m e) (positive : 0 < m) :
    x.toModel.unpack = .finite (signOf negative) m e positive := by
  have some : (Binary.ofFloat x).mantissa ≠ 0 := by
    rw [denotes.mantissa]
    omega
  rw [unpack_eq, if_neg ((isFinite_iff x).1 denotes.finite), dif_neg some, denotes.sign]
  exact finite_congr denotes.mantissa denotes.exponent

theorem unpack_zero (denotes : Denotes x negative 0 e) :
    x.toModel.unpack = .zero (signOf negative) := by
  rw [unpack_eq, if_neg ((isFinite_iff x).1 denotes.finite), dif_pos denotes.mantissa,
    denotes.sign]

/-! ## Packing -/

/-- The bits of a canonical magnitude. -/
theorem toNat_pack (canonical : Canonical m e) (positive : 0 < m) :
    (UnpackedFloat.pack .binary64 (.finite (signOf negative) m e positive)).toNat =
      (if negative then 2 ^ 63 else 0) +
        if 2 ^ 52 ≤ m then (e + 1075).toNat * 2 ^ 52 + (m - 2 ^ 52) else m := by
  obtain ⟨bits, least, most, shape⟩ := canonical
  have biased : (e + (Format.binary64.exponentBias : Int) + (52 : Nat)).toNat =
      (e + 1075).toNat := by
    show (e + 1023 + 52).toNat = _
    omega
  have sign : (signOf negative).toBitVec.toNat * 2 ^ 63 = if negative then 2 ^ 63 else 0 := by
    cases negative <;> rfl
  have fits : ¬ 2 ^ 11 ≤ (e + 1075).toNat + 1 := by omega
  have nonzero : m ≠ 0 := by omega
  unfold UnpackedFloat.pack
  dsimp only
  rw [biased, if_neg fits]
  by_cases normal : 2 ^ 52 ≤ m
  · have log : m.log2 + 1 = Format.binary64.mantissaBits := by
      show m.log2 + 1 = 53
      rw [(Nat.log2_eq_iff nonzero).2 ⟨normal, bits⟩]
    have low : m % 2 ^ 52 = m - 2 ^ 52 := by omega
    have high : (e + 1075).toNat % 2 ^ 11 = (e + 1075).toNat := Nat.mod_eq_of_lt (by omega)
    rw [if_pos log, if_pos normal, toNat_packComponents, BitVec.toNat_ofNat, BitVec.toNat_ofNat,
      sign, low, high, Nat.add_assoc]
  · have log : ¬ m.log2 + 1 = Format.binary64.mantissaBits := by
      show ¬ m.log2 + 1 = 53
      have less : m.log2 < 52 := (Nat.log2_lt nonzero).2 (by omega)
      omega
    have low : m % 2 ^ 52 = m := Nat.mod_eq_of_lt (by omega)
    rw [if_neg log, if_neg normal, toNat_packComponents, BitVec.toNat_ofNat, BitVec.toNat_ofNat,
      sign, low]
    omega

/-- Packing a canonical magnitude yields the number that it denotes. -/
theorem denotes_pack (canonical : Canonical m e) (positive : 0 < m) :
    Denotes (.ofModel (.pack (.finite (signOf negative) m e positive))) negative m e := by
  have packed := @toNat_pack negative m e canonical positive
  generalize word : Float.ofModel (.pack (.finite (signOf negative) m e positive)) = x
  have bits : x.toBits.toNat = (if negative then 2 ^ 63 else 0) +
      if 2 ^ 52 ≤ m then (e + 1075).toNat * 2 ^ 52 + (m - 2 ^ 52) else m := by
    rw [← word, ← packed]
    rfl
  obtain ⟨small, least, most, shape⟩ := canonical
  -- The three fields are cut out of the word again by division.
  have parts : ∃ top field low, x.toBits.toNat = top * 2 ^ 63 + field * 2 ^ 52 + low ∧
      top = (if negative then 1 else 0) ∧ field < 2047 ∧ low < 2 ^ 52 ∧
      m = (if field = 0 then low else 2 ^ 52 + low) ∧
      e = (if field = 0 then -1074 else (field : Int) - 1075) := by
    by_cases normal : 2 ^ 52 ≤ m
    · refine ⟨if negative then 1 else 0, (e + 1075).toNat, m - 2 ^ 52, ?_, rfl, by omega, by omega,
        ?_, ?_⟩
      · rw [bits, if_pos normal]
        cases negative <;> simp
        omega
      · rw [if_neg (by omega)]
        omega
      · rw [if_neg (by omega)]
        omega
    · refine ⟨if negative then 1 else 0, 0, m, ?_, rfl, by omega, by omega, rfl, ?_⟩
      · rw [bits, if_neg normal]
        cases negative <;> simp
      · rw [if_pos rfl]
        omega
  obtain ⟨top, field, low, word, topEq, fieldLt, lowLt, mEq, eEq⟩ := parts
  have topLe : top ≤ 1 := by
    rw [topEq]
    split <;> omega
  have exponentIs : exponentField x = field := by
    unfold exponentField
    omega
  have fractionIs : fraction x = low := by
    unfold fraction
    omega
  have topIs : x.toBits.toNat / 2 ^ 63 = top := by omega
  refine ⟨(isFinite_iff x).2 (by omega), ?_, ?_, ?_⟩
  · rw [signBit_eq, topIs, topEq]
    cases negative <;> rfl
  · rw [mantissa_eq, exponentIs, fractionIs, mEq]
  · rw [exponent_eq, exponentIs, eEq]

theorem denotes_neg (denotes : Denotes x negative m e) (positive : 0 < m) :
    Denotes (-x) (!negative) m e := by
  have opposite : (UnpackedFloat.finite (signOf negative) m e positive).neg =
      .finite (signOf !negative) m e positive := by
    cases negative <;> rfl
  show Denotes (.ofModel (.pack x.toModel.unpack.neg)) (!negative) m e
  rw [unpack_of_denotes denotes positive, opposite]
  exact denotes_pack denotes.canonical positive

end WiringQuote.Decimal
