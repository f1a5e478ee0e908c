import Mathlib.Data.Prod.Lex
import WiringQuote.Proofs.Decimal.Bounds
import WiringQuote.Proofs.Decimal.Range

/-!
# The order of numbers

Binary64 numbers other than the undefined one are compared by a rank in a linear order: first by their
sign and kind, then by exponent and mantissa. So they are ordered totally, the two zeros as one.

* `le_iff_rank`: `x ≤ y` exactly if both are numbers and the ranks are in that order.
* `le_self`, `le_trans`, `le_of_not_lt`: the order is reflexive on numbers, transitive and total.
* `not_lt_sub_self`: what is left of a number taken off itself exceeds nothing but negative numbers.
* `eq_of_beq`, `signBit_add`: numbers without a minus sign count as equal only if they are the same, and
  their sums have no minus sign either.
* `not_ofInt_lt_zero`: whole numbers keep their sign.
-/

namespace WiringQuote.Decimal

open Float.Model UnpackedFloat

/-! ## Ranks -/

/-- What numbers are compared by. The undefined number has a rank, but is in no order. -/
def unpackedRank : UnpackedFloat → ℤ ×ₗ ℤ ×ₗ ℤ
  | .notANumber => toLex (0, toLex (0, 0))
  | .zero _ => toLex (0, toLex (0, 0))
  | .infinity .negative => toLex (-2, toLex (0, 0))
  | .infinity .positive => toLex (2, toLex (0, 0))
  | .finite .negative m e _ => toLex (-1, toLex (-e, -m))
  | .finite .positive m e _ => toLex (1, toLex (e, m))

def rank (x : Float) : ℤ ×ₗ ℤ ×ₗ ℤ := unpackedRank x.toModel.unpack

section Places

variable {a b : ℤ} {p q : ℤ ×ₗ ℤ}

theorem true_iff_toLex_le (less : a < b) : (true = true) ↔ toLex (a, p) ≤ toLex (b, q) :=
  iff_of_true rfl (Prod.Lex.toLex_le_toLex.2 (.inl less))

theorem false_iff_toLex_le (greater : b < a) : (false = true) ↔ toLex (a, p) ≤ toLex (b, q) := by
  refine iff_of_false Bool.false_ne_true fun le => ?_
  rcases Prod.Lex.toLex_le_toLex.1 le with less | ⟨same, _⟩
  · exact absurd less greater.not_gt
  · exact absurd same.symm greater.ne

theorem true_iff_toLex_le_self : (true = true) ↔ toLex (a, p) ≤ toLex (a, p) := iff_of_true rfl le_rfl

theorem isLE_iff_toLex_le {m n : ℕ} {e f : ℤ} :
    ((compare e f).then (compare m n)).isLE = true ↔
      toLex (a, toLex (e, (m : ℤ))) ≤ toLex (a, toLex (f, (n : ℤ))) := by
  simp [Prod.Lex.toLex_le_toLex, Ordering.isLE_then_iff_or, compare_lt_iff_lt, Nat.isLE_compare]

theorem isLE_swap_iff_toLex_le {m n : ℕ} {e f : ℤ} :
    ((compare e f).then (compare m n)).swap.isLE = true ↔
      toLex (a, toLex (-e, -(m : ℤ))) ≤ toLex (a, toLex (-f, -(n : ℤ))) := by
  simp [Prod.Lex.toLex_le_toLex, Ordering.isLE_then_iff_or, Ordering.swap_then, compare_gt_iff_gt,
    Nat.isGE_compare]

end Places

theorem compare_isLE_iff {x y : UnpackedFloat} (xNumber : x ≠ .notANumber) (yNumber : y ≠ .notANumber) :
    (x.compare y).any (·.isLE) = true ↔ unpackedRank x ≤ unpackedRank y := by
  -- Numbers of different signs and kinds are told apart by the first part of their ranks.
  cases x with
  | notANumber => exact absurd rfl xNumber
  | infinity s =>
    cases y with
    | notANumber => exact absurd rfl yNumber
    | infinity t | zero t | finite t _ _ _ =>
      cases s <;> cases t <;>
        first
        | exact true_iff_toLex_le_self
        | exact true_iff_toLex_le (show (-2 : ℤ) < _ by decide)
        | exact false_iff_toLex_le (show _ < (2 : ℤ) by decide)
  | zero s =>
    cases y with
    | notANumber => exact absurd rfl yNumber
    | zero t => exact true_iff_toLex_le_self
    | infinity t | finite t _ _ _ =>
      cases t
      · exact false_iff_toLex_le (show _ < (0 : ℤ) by decide)
      · exact true_iff_toLex_le (show (0 : ℤ) < _ by decide)
  | finite s m e mPos =>
    cases y with
    | notANumber => exact absurd rfl yNumber
    | infinity t | zero t =>
      cases s <;> cases t <;>
        first
        | exact true_iff_toLex_le (show _ < _ by decide)
        | exact false_iff_toLex_le (show _ < _ by decide)
    | finite t n f nPos =>
      cases s <;> cases t
      · exact isLE_swap_iff_toLex_le
      · exact true_iff_toLex_le (show (-1 : ℤ) < 1 by decide)
      · exact false_iff_toLex_le (show (-1 : ℤ) < 1 by decide)
      · exact isLE_iff_toLex_le

/-! ## Numbers -/

variable {x y z s : Float}

theorem ne_notANumber_iff : x.toModel.unpack ≠ .notANumber ↔ x.isNaN = false := by
  show _ ↔ x.toModel.unpack.isNaN = false
  cases x.toModel.unpack with
  | notANumber => exact iff_of_false (fun other => other rfl) (fun isNumber => by cases isNumber)
  | infinity s | zero s | finite s _ _ _ => exact iff_of_true (fun same => by cases same) rfl

theorem compare_notANumber (u : UnpackedFloat) : u.compare .notANumber = none := by
  cases u <;> rfl

theorem isNumber_of_le (le : x ≤ y) : x.isNaN = false ∧ y.isNaN = false := by
  rw [le_iff] at le
  rw [← ne_notANumber_iff, ← ne_notANumber_iff]
  constructor
  · intro undefined
    rw [undefined] at le
    cases le
  · intro undefined
    rw [undefined, compare_notANumber] at le
    cases le

theorem isNumber_of_lt (less : x < y) : y.isNaN = false := by
  rw [lt_iff] at less
  rw [← ne_notANumber_iff]
  intro undefined
  rw [undefined, compare_notANumber] at less
  cases less

theorem le_iff_rank : x ≤ y ↔ x.isNaN = false ∧ y.isNaN = false ∧ rank x ≤ rank y := by
  constructor
  · intro le
    obtain ⟨xNumber, yNumber⟩ := isNumber_of_le le
    rw [le_iff, compare_isLE_iff (ne_notANumber_iff.2 xNumber) (ne_notANumber_iff.2 yNumber)] at le
    exact ⟨xNumber, yNumber, le⟩
  · rintro ⟨xNumber, yNumber, le⟩
    rw [le_iff, compare_isLE_iff (ne_notANumber_iff.2 xNumber) (ne_notANumber_iff.2 yNumber)]
    exact le

theorem le_self (number : x.isNaN = false) : x ≤ x := le_iff_rank.2 ⟨number, number, le_rfl⟩

theorem le_trans (first : x ≤ y) (second : y ≤ z) : x ≤ z := by
  obtain ⟨xNumber, _, xy⟩ := le_iff_rank.1 first
  obtain ⟨_, zNumber, yz⟩ := le_iff_rank.1 second
  exact le_iff_rank.2 ⟨xNumber, zNumber, xy.trans yz⟩

theorem compare_swap (u v : UnpackedFloat) : v.compare u = (u.compare v).map Ordering.swap := by
  cases u with
  | notANumber => exact compare_notANumber v
  | infinity s =>
    cases v with
    | notANumber => cases s <;> rfl
    | infinity t => cases s <;> cases t <;> rfl
    | zero | finite => cases s <;> rfl
  | zero s =>
    cases v with
    | notANumber | zero => rfl
    | infinity t | finite t _ _ _ => cases t <;> rfl
  | finite s m e mPos =>
    cases v with
    | notANumber => cases s <;> rfl
    | infinity t => cases s <;> cases t <;> rfl
    | zero => cases s <;> rfl
    | finite t n f nPos =>
      have magnitudes : (compare f e).then (compare n m) = ((compare e f).then (compare m n)).swap := by
        rw [Ordering.swap_then, Int.compare_swap, Nat.compare_swap]
      cases s <;> cases t
      · exact congrArg (fun order => some (Ordering.swap order)) magnitudes
      · rfl
      · rfl
      · exact congrArg some magnitudes

theorem not_lt_of_le (le : x ≤ y) : ¬ y < x := by
  rw [le_iff] at le
  rw [lt_iff, compare_swap x.toModel.unpack]
  cases compared : x.toModel.unpack.compare y.toModel.unpack with
  | none =>
    rw [compared] at le
    cases le
  | some order =>
    rw [compared] at le
    cases order with
    | lt | eq => intro less; cases less
    | gt => cases le

/-- Of two numbers one is at most the other. -/
theorem le_of_not_lt (xNumber : x.isNaN = false) (yNumber : y.isNaN = false) (least : ¬ x < y) :
    y ≤ x := by
  by_contra above
  have ranks : rank x ≤ rank y :=
    (le_total (rank x) (rank y)).resolve_right fun ge =>
      above (le_iff_rank.2 ⟨yNumber, xNumber, ge⟩)
  have le : x ≤ y := le_iff_rank.2 ⟨xNumber, yNumber, ranks⟩
  rw [le_iff, compare_swap x.toModel.unpack] at above
  rw [le_iff] at le
  rw [lt_iff] at least
  cases compared : x.toModel.unpack.compare y.toModel.unpack with
  | none =>
    rw [compared] at le
    cases le
  | some order =>
    rw [compared] at le above least
    cases order with
    | lt => exact least rfl
    | eq => exact above rfl
    | gt => cases le

/-! ## A number taken off itself -/

theorem sub_self_unpacked (u : UnpackedFloat) :
    UnpackedFloat.sub Format.binary64 u u = .zero .positive ∨
      UnpackedFloat.sub Format.binary64 u u = .notANumber := by
  cases u with
  | notANumber => exact .inr rfl
  | infinity sign => exact .inr (by cases sign <;> rfl)
  | zero sign => exact .inl (by cases sign <;> rfl)
  | finite sign m e mPos =>
    refine .inl ?_
    show normalize Format.binary64 (sign.apply _ - sign.apply _) _ .positive = _
    rw [Int.sub_self]
    rfl

/-- A number taken off itself leaves zero or, if it is infinite, nothing defined. -/
theorem not_lt_sub_self (nonneg : ¬ s < 0) : ¬ s < x - x := by
  rcases sub_self_unpacked x.toModel.unpack with none | undefined
  · have zero : x - x = 0 := by
      show Float.ofModel (Float.Model.pack (UnpackedFloat.sub Format.binary64 _ _)) = 0
      rw [none]
      decide +kernel
    rwa [zero]
  · intro less
    have isNaN : (x - x).isNaN = true := by
      show (Float.ofModel (Float.Model.pack (UnpackedFloat.sub Format.binary64 _ _))).isNaN = true
      rw [undefined]
      decide +kernel
    rw [isNumber_of_lt less] at isNaN
    cases isNaN

/-! ## Signs -/

/-- What a number with this sign is read as, and from which fields. -/
inductive Reads (x : Float) (negative : Bool) : UnpackedFloat → Prop
  | undefined : Reads x negative .notANumber
  | infinite : exponentField x = 2047 → fraction x = 0 →
      Reads x negative (.infinity (signOf negative))
  | zero : Denotes x negative 0 (-1074) → Reads x negative (.zero (signOf negative))
  | finite {m : Nat} {e : Int} (positive : 0 < m) : Denotes x negative m e →
      Reads x negative (.finite (signOf negative) m e positive)

theorem reads_unpack {negative : Bool} (sign : signBit x = negative) :
    Reads x negative x.toModel.unpack := by
  rw [unpack_eq, sign]
  by_cases ones : exponentField x = 2047
  · rw [if_pos ones]
    by_cases none : fraction x = 0
    · rw [if_pos none]
      exact .infinite ones none
    · rw [if_neg none]
      exact .undefined
  · have own := denotes_self ((isFinite_iff x).2 ones)
    rw [sign] at own
    rw [if_neg ones]
    by_cases none : (Binary.ofFloat x).mantissa = 0
    · rw [dif_pos none]
      have least : (Binary.ofFloat x).exponent = -1074 := by
        rcases own.canonical.normal with normal | least
        · omega
        · exact least
      rw [none, least] at own
      exact .zero own
    · rw [dif_neg none]
      exact .finite (Nat.pos_of_ne_zero none) own

theorem not_lt_zero_of_signBit (positive : signBit x = false) : ¬ x < 0 := by
  have zero : (0 : Float).toModel.unpack = .zero .positive := unpack_zeroLiteral
  rw [lt_iff, zero]
  intro less
  have reads := reads_unpack positive
  generalize x.toModel.unpack = u at less reads
  cases reads <;> cases less

theorem signBit_of_above (above : 0.0 < x) : signBit x = false := by
  rw [lt_iff, unpack_zeroLiteral] at above
  cases sign : signBit x with
  | false => rfl
  | true =>
    have reads := reads_unpack sign
    generalize x.toModel.unpack = u at above reads
    cases reads <;> cases above

/-- Numbers without a minus sign that count as equal are the same. -/
theorem eq_of_beq (first : signBit x = false) (second : signBit y = false)
    (same : (x == y) = true) : x = y := by
  have equal : x.toModel.unpack.compare y.toModel.unpack = some .eq := by
    have both : (x.toModel.unpack.compare y.toModel.unpack == some .eq) = true := same
    simpa using both
  have readsX := reads_unpack first
  have readsY := reads_unpack second
  generalize x.toModel.unpack = u at equal readsX
  generalize y.toModel.unpack = v at equal readsY
  cases readsX with
  | undefined => cases equal
  | infinite onesX noneX =>
    cases readsY with
    | infinite onesY noneY =>
      refine eq_of_bits ?_
      rw [bits_eq, bits_eq, first, second, onesX, onesY, noneX, noneY]
    | undefined | zero | finite => cases equal
  | zero denotesX =>
    cases readsY with
    | zero denotesY => exact denotes_unique denotesX denotesY
    | undefined | infinite | finite => cases equal
  | @finite m e _ denotesX =>
    cases readsY with
    | @finite n f _ denotesY =>
      have parts : (compare e f).then (compare m n) = .eq := Option.some.inj equal
      obtain ⟨exponents, mantissas⟩ := Ordering.then_eq_eq.1 parts
      obtain rfl := compare_eq_iff_eq.1 exponents
      obtain rfl := compare_eq_iff_eq.1 mantissas
      exact denotes_unique denotesX denotesY
    | undefined | infinite | zero => cases equal

/-! ## Sums without a minus sign -/

/-- The value has no minus sign. -/
inductive Unsigned : UnpackedFloat → Prop
  | undefined : Unsigned .notANumber
  | infinite : Unsigned (.infinity .positive)
  | zero : Unsigned (.zero .positive)
  | finite {m : Nat} {e : Int} {positive : 0 < m} : Unsigned (.finite .positive m e positive)

theorem Reads.unsigned {u : UnpackedFloat} (reads : Reads x false u) : Unsigned u := by
  cases reads with
  | undefined => exact .undefined
  | infinite => exact .infinite
  | zero => exact .zero
  | finite => exact .finite

theorem signBit_of_packed {u : UnpackedFloat} {exponent : BitVec 11} {mantissa : BitVec 52}
    (packed : UnpackedFloat.pack Format.binary64 u =
      packComponents Format.binary64 .positive exponent mantissa) :
    signBit (.ofModel (.pack u)) = false := by
  have bits : (Float.ofModel (.pack u)).toBits.toNat =
      exponent.toNat * 2 ^ 52 + mantissa.toNat := by
    show (UnpackedFloat.pack Format.binary64 u).toNat = _
    rw [packed, toNat_packComponents]
    show 0 * 2 ^ 63 + _ + _ = _
    rw [Nat.zero_mul, Nat.zero_add]
  have low := exponent.isLt
  have lower := mantissa.isLt
  rw [signBit_eq, bits]
  exact decide_eq_false (by omega)

theorem signBit_pack_finite {m : Nat} {e : Int} (positive : 0 < m) :
    signBit (.ofModel (.pack (.finite .positive m e positive))) = false := by
  by_cases huge : 2 ^ 11 ≤ (e + 1023 + 52).toNat + 1
  · exact signBit_of_packed (if_pos huge)
  by_cases normal : m.log2 + 1 = 53
  · exact signBit_of_packed ((if_neg huge).trans (if_pos normal))
  · exact signBit_of_packed ((if_neg huge).trans (if_neg normal))

theorem Unsigned.signBit_pack {u : UnpackedFloat} (unsigned : Unsigned u) :
    signBit (.ofModel (.pack u)) = false := by
  cases unsigned with
  | undefined => decide +kernel
  | infinite => decide +kernel
  | zero => decide +kernel
  | finite => exact signBit_pack_finite _

theorem unsigned_round (m : Nat) (e : Int) :
    Unsigned (roundWithAccuracy .binary64 .positive m e .exact) := by
  unfold roundWithAccuracy
  dsimp only
  by_cases none : (shiftToTargetExponent .binary64
      (shiftToTargetExponent .binary64 m e .exact).1.roundedMantissa
      (shiftToTargetExponent .binary64 m e .exact).2 .exact).1.mantissa = 0
  · rw [dif_pos none]
    exact .zero
  · rw [dif_neg none]
    exact .finite

theorem unsigned_normalize (m : Nat) (e : Int) :
    Unsigned (UnpackedFloat.normalize .binary64 (m : Int) e .positive) := by
  unfold UnpackedFloat.normalize
  rcases Nat.eq_zero_or_pos m with rfl | positive
  · exact .zero
  · have above : compare (m : Int) 0 = .gt := compare_gt_iff_gt.2 (by omega)
    rw [above]
    exact unsigned_round _ _

theorem Unsigned.add {u v : UnpackedFloat} (first : Unsigned u) (second : Unsigned v) :
    Unsigned (UnpackedFloat.add .binary64 u v) := by
  cases first with
  | undefined => exact .undefined
  | infinite =>
    cases second with
    | undefined => exact .undefined
    | infinite | zero | finite => exact .infinite
  | zero =>
    cases second with
    | undefined => exact .undefined
    | infinite => exact .infinite
    | zero => exact .zero
    | finite => exact .finite
  | finite =>
    cases second with
    | undefined => exact .undefined
    | infinite => exact .infinite
    | zero => exact .finite
    | finite => exact unsigned_normalize _ _

/-- A sum of numbers without a minus sign has none. -/
theorem signBit_add (first : signBit x = false) (second : signBit y = false) :
    signBit (x + y) = false :=
  ((reads_unpack first).unsigned.add (reads_unpack second).unsigned).signBit_pack

/-! ## Whole numbers -/

theorem signBit_ofNat (n : Nat) : signBit (Float.ofNat n) = false := by
  rcases Nat.eq_zero_or_pos n with rfl | positive
  · decide +kernel
  rcases Nat.lt_or_ge n (2 ^ 53) with few | many
  · exact (denotes_ofNat_of_few positive few).sign
  · rw [ofNat_of_many many]
    exact (unsigned_round _ _).signBit_pack

/-- No whole number from zero on is negative as a float, also if it is beyond the range. -/
theorem not_ofInt_lt_zero {n : Int} (nonneg : 0 ≤ n) : ¬ Float.ofInt n < 0 := by
  obtain ⟨k, rfl⟩ := Int.eq_ofNat_of_zero_le nonneg
  exact not_lt_zero_of_signBit (signBit_ofNat k)

end WiringQuote.Decimal
