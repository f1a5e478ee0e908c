import Mathlib.Tactic.Ring
import WiringQuote.Decimal.Binary

/-!
# Rounding exact quotients

`roundDiv` as the rounding of binary64 arithmetic, which keeps a mantissa, a round bit and a sticky
bit of an exact quotient:

* `roundDiv_congr`, `roundDiv_of_near`: the rounded quotient depends on the quotient only, and is
  the integer that the quotient is near to.
* `Represents.roundedMantissa`: rounding a mantissa by its two bits is rounding the quotient.
* `roundWithAccuracy_normal`: a quotient of normal size is rounded to 53 bits.
-/

namespace WiringQuote.Decimal

open Float.Model UnpackedFloat

/-! ## Quotients -/

/-- The integer that a quotient is nearer to than half a unit. -/
theorem roundDiv_of_near {num den k : Nat} (below : 2 * (k * den) < 2 * num + den)
    (above : 2 * num < 2 * (k * den) + den) : roundDiv num den = k := by
  have positive : 0 < den := by omega
  obtain ⟨least, most⟩ := @roundDiv_near num den positive
  generalize roundDiv num den = r at least most
  rcases Nat.lt_trichotomy r k with less | same | more
  · have step : (r + 1) * den ≤ k * den := Nat.mul_le_mul_right den less
    rw [Nat.add_mul, Nat.one_mul] at step
    omega
  · exact same
  · have step : (k + 1) * den ≤ r * den := Nat.mul_le_mul_right den more
    rw [Nat.add_mul, Nat.one_mul] at step
    omega

theorem roundDiv_mul {k den : Nat} (positive : 0 < den) : roundDiv (k * den) den = k :=
  roundDiv_of_near (by omega) (by omega)

/-- A quotient that is at most an integer is rounded to at most that integer. -/
theorem roundDiv_le {num den k : Nat} (positive : 0 < den) (most : num ≤ k * den) :
    roundDiv num den ≤ k := by
  obtain ⟨near, _⟩ := @roundDiv_near num den positive
  by_contra more
  have step : (k + 1) * den ≤ roundDiv num den * den := Nat.mul_le_mul_right den (by omega)
  rw [Nat.add_mul, Nat.one_mul] at step
  omega

theorem le_roundDiv {num den k : Nat} (positive : 0 < den) (least : k * den ≤ num) :
    k ≤ roundDiv num den := by
  obtain ⟨_, near⟩ := @roundDiv_near num den positive
  by_contra less
  have step : (roundDiv num den + 1) * den ≤ k * den := Nat.mul_le_mul_right den (by omega)
  rw [Nat.add_mul, Nat.one_mul] at step
  omega

/-- The rounded quotient by the integer below: a remainder above half a unit rounds up, one below it
rounds down, and exactly half a unit goes to the even neighbour. -/
theorem roundDiv_eq {num den : Nat} (positive : 0 < den) :
    roundDiv num den =
      if 2 * (num % den) < den then num / den
      else if 2 * (num % den) = den then num / den + num / den % 2
      else num / den + 1 := by
  have parts := Nat.div_add_mod num den
  have small := Nat.mod_lt num positive
  rw [Nat.mul_comm den] at parts
  split
  · exact roundDiv_of_near (by omega) (by omega)
  · split
    · rename_i half
      -- An exact half lies between two neighbours, of which the rounded quotient is the even one.
      have up : 2 * num + den = 2 * den * (num / den + 1) := by
        rw [Nat.mul_assoc, Nat.mul_comm den, Nat.add_mul]
        omega
      have even : roundDiv num den % 2 = 0 := roundDiv_half (by rw [up, Nat.mul_mod_right])
      obtain ⟨least, most⟩ := @roundDiv_near num den positive
      generalize roundDiv num den = r at even least most
      generalize num / den = q at parts
      have least' : r ≤ q + 1 := by
        by_contra more
        have step : (q + 2) * den ≤ r * den := Nat.mul_le_mul_right den (by omega)
        rw [Nat.add_mul] at step
        omega
      have most' : q ≤ r := by
        by_contra less
        have step : (r + 1) * den ≤ q * den := Nat.mul_le_mul_right den (by omega)
        rw [Nat.add_mul] at step
        omega
      omega
    · refine roundDiv_of_near ?_ ?_ <;> rw [Nat.add_mul, Nat.one_mul] <;> omega

/-- The rounded quotient depends on the quotient only. -/
theorem roundDiv_congr {num den top bottom : Nat} (positive : 0 < den) (lower : 0 < bottom)
    (same : num * bottom = top * den) : roundDiv num den = roundDiv top bottom := by
  -- Both quotients are expanded to the common denominator.
  have scale : ∀ n d c : Nat, 0 < d → 0 < c → roundDiv (n * c) (d * c) = roundDiv n d := by
    intro n d c dPos cPos
    have whole : n * c / (d * c) = n / d := Nat.mul_div_mul_right n d cPos
    have left : n * c % (d * c) = n % d * c := Nat.mul_mod_mul_right c n d
    have less : 2 * (n % d * c) < d * c ↔ 2 * (n % d) < d := by
      rw [← Nat.mul_assoc]
      exact Nat.mul_lt_mul_right cPos
    have equal : 2 * (n % d * c) = d * c ↔ 2 * (n % d) = d := by
      rw [← Nat.mul_assoc]
      exact Nat.mul_left_inj (Nat.pos_iff_ne_zero.1 cPos)
    rw [roundDiv_eq (Nat.mul_pos dPos cPos), roundDiv_eq dPos, whole, left]
    simp only [less, equal]
  rw [← scale num den bottom positive lower, same, Nat.mul_comm den bottom,
    scale top bottom den lower positive]

/-! ## Mantissas with two bits -/

/-- The mantissa and the bits of the quotient `num / den`: the integer below, whether the remainder
makes up half a unit, and whether anything else remains. -/
structure Represents (em : ExtendedMantissa) (num den : Nat) : Prop where
  positive : 0 < den
  mantissa : em.mantissa = num / den
  roundBit : em.roundBit = decide (den ≤ 2 * (num % den))
  stickyBit : em.stickyBit = decide (2 * (num % den) % den ≠ 0)

theorem represents_exact (m : Nat) : Represents (.ofMantissaAndAccuracy m .exact) m 1 := by
  refine ⟨Nat.one_pos, (Nat.div_one m).symm, ?_, ?_⟩ <;> simp [ExtendedMantissa.ofMantissaAndAccuracy,
    Nat.mod_one]

/-- Twice a remainder, reduced: nothing remains exactly of nothing and of half a unit. -/
theorem two_mul_mod_eq {r den : Nat} (small : r < den) :
    2 * r % den = if den ≤ 2 * r then 2 * r - den else 2 * r := by
  split
  · rename_i most
    rw [Nat.mod_eq_sub_mod most, Nat.mod_eq_of_lt (by omega)]
  · exact Nat.mod_eq_of_lt (by omega)

/-- The mantissa and the accuracy of a division represent its quotient. -/
theorem represents_fraction {num den : Nat} (positive : 0 < den) :
    Represents (.ofMantissaAndAccuracy (num / den) (accuracyOfFraction (num % den) den)) num den := by
  have small := Nat.mod_lt num positive
  have reduced := two_mul_mod_eq small
  unfold accuracyOfFraction
  split
  · rename_i exact
    refine ⟨positive, rfl, ?_, ?_⟩ <;> simp [ExtendedMantissa.ofMantissaAndAccuracy, exact]
    omega
  · rename_i inexact
    rcases Nat.lt_trichotomy (2 * (num % den)) den with less | half | more
    · rw [Nat.compare_eq_lt.2 less]
      refine ⟨positive, rfl, ?_, ?_⟩ <;>
        simp only [ExtendedMantissa.ofMantissaAndAccuracy] <;> symm
      · exact decide_eq_false (by omega)
      · refine decide_eq_true ?_
        rw [reduced]
        split <;> omega
    · rw [Nat.compare_eq_eq.2 half]
      refine ⟨positive, rfl, ?_, ?_⟩ <;>
        simp only [ExtendedMantissa.ofMantissaAndAccuracy] <;> symm
      · exact decide_eq_true (by omega)
      · refine decide_eq_false ?_
        rw [reduced]
        split <;> omega
    · rw [Nat.compare_eq_gt.2 more]
      refine ⟨positive, rfl, ?_, ?_⟩ <;>
        simp only [ExtendedMantissa.ofMantissaAndAccuracy] <;> symm
      · exact decide_eq_true (by omega)
      · refine decide_eq_true ?_
        rw [reduced]
        split <;> omega

/-- Shifting a bit out of the mantissa halves the quotient. -/
theorem Represents.shiftRightOne {em : ExtendedMantissa} {num den : Nat}
    (represents : Represents em num den) : Represents em.shiftRightOne num (den * 2) := by
  obtain ⟨positive, mantissa, roundBit, stickyBit⟩ := represents
  have small := Nat.mod_lt num positive
  have remainder : num % (den * 2) = num % den + den * (num / den % 2) := Nat.mod_mul
  have inner : (num % den + den * (num / den % 2)) % den = num % den := by
    rw [Nat.add_mul_mod_self_left, Nat.mod_mod]
  have outer : 2 * (num % (den * 2)) % (den * 2) = 2 * (num % den) := by
    rw [Nat.mul_comm den 2, Nat.mul_mod_mul_left, Nat.mul_comm 2 den, remainder, inner]
  have parity : num / den % 2 = 0 ∨ num / den % 2 = 1 := Nat.mod_two_eq_zero_or_one _
  refine ⟨by omega, ?_, ?_, ?_⟩
  · show em.mantissa / 2 = num / (den * 2)
    rw [mantissa, Nat.div_div_eq_div_mul]
  · show (em.mantissa % 2 != 0) = decide (den * 2 ≤ 2 * (num % (den * 2)))
    rw [mantissa, remainder]
    rcases parity with even | odd
    · rw [even]
      simp
      omega
    · rw [odd]
      simp
      omega
  · show (em.roundBit || em.stickyBit) = decide (2 * (num % (den * 2)) % (den * 2) ≠ 0)
    rw [outer, roundBit, stickyBit, two_mul_mod_eq small, ← Bool.decide_or]
    refine decide_eq_decide.2 ?_
    split <;> omega

theorem Represents.shiftRight {em : ExtendedMantissa} {num den : Nat}
    (represents : Represents em num den) (n : Nat) :
    Represents (em >>> n) num (den * 2 ^ n) := by
  show Represents (n.repeat ExtendedMantissa.shiftRightOne em) num (den * 2 ^ n)
  induction n with
  | zero => rwa [Nat.pow_zero, Nat.mul_one]
  | succ n ih =>
    rw [Nat.pow_succ, ← Nat.mul_assoc]
    exact ih.shiftRightOne

/-- Rounding a mantissa by its two bits is rounding the quotient. -/
theorem Represents.roundedMantissa {em : ExtendedMantissa} {num den : Nat}
    (represents : Represents em num den) : em.roundedMantissa = roundDiv num den := by
  obtain ⟨positive, mantissa, roundBit, stickyBit⟩ := represents
  obtain ⟨m, round, sticky⟩ := em
  have small := Nat.mod_lt num positive
  simp only at mantissa roundBit stickyBit
  subst mantissa roundBit stickyBit
  rw [roundDiv_eq positive, two_mul_mod_eq small]
  rcases Nat.lt_trichotomy (2 * (num % den)) den with less | half | more
  · rw [if_pos less]
    have noHalf : ¬ den ≤ 2 * (num % den) := by omega
    rw [decide_eq_false noHalf]
    by_cases zero : num % den = 0 <;>
      simp [ExtendedMantissa.roundedMantissa, ExtendedMantissa.accuracy,
        Accuracy.roundToNearestEven, noHalf, zero]
  · simp [ExtendedMantissa.roundedMantissa, ExtendedMantissa.accuracy,
      Accuracy.roundToNearestEven, half]
  · have noLess : ¬ 2 * (num % den) < den := by omega
    have noEqual : ¬ 2 * (num % den) = den := by omega
    have most : den ≤ 2 * (num % den) := by omega
    have rest : 2 * (num % den) - den ≠ 0 := by omega
    simp [ExtendedMantissa.roundedMantissa, ExtendedMantissa.accuracy,
      Accuracy.roundToNearestEven, noLess, noEqual, most, rest]

/-! ## Rounding to 53 bits -/

theorem targetExponent_eq (m : Nat) (e : Int) :
    Format.binary64.targetExponent (totalExponent m e) = max (m.log2 + 1 + e - 53) (-1074) := rfl

theorem log2_of_bounds {n k : Nat} (least : 2 ^ k ≤ n) (most : n < 2 ^ (k + 1)) : n.log2 = k := by
  have positive : 0 < 2 ^ k := Nat.two_pow_pos k
  exact (Nat.log2_eq_iff (by omega)).2 ⟨least, most⟩

/-- So many units of `2 ^ t`, where `2 ^ 53` units carry over to the next exponent. -/
def normal (sign : Sign) (r : Nat) (t : Int) (least : 2 ^ 52 ≤ r) : UnpackedFloat :=
  if r = 2 ^ 53 then .finite sign (2 ^ 52) (t + 1) (by decide)
  else .finite sign r t (by omega)

/-- A mantissa of 53 bits, or the one just above, is only carried over. -/
theorem shiftToTargetExponent_carry {r : Nat} {t : Int} (least : 2 ^ 52 ≤ r) (most : r ≤ 2 ^ 53)
    (low : -1074 ≤ t) : shiftToTargetExponent .binary64 r t .exact =
      if r = 2 ^ 53 then (⟨2 ^ 52, false, false⟩, t + 1) else (⟨r, false, false⟩, t) := by
  unfold shiftToTargetExponent
  rw [targetExponent_eq]
  split
  · rename_i carried
    subst carried
    have target : max (((2 ^ 53 : Nat).log2 : Int) + 1 + t - 53) (-1074) = t + 1 := by
      rw [Nat.log2_two_pow]
      omega
    unfold shiftToExponent
    rw [target]
    have one : (t + 1 - t).toNat = 1 := by omega
    dsimp only
    rw [one]
    rfl
  · have log : r.log2 = 52 := log2_of_bounds least (by omega)
    have target : max ((r.log2 : Int) + 1 + t - 53) (-1074) = t := by
      rw [log]
      omega
    unfold shiftToExponent
    rw [target]
    have none : (t - t).toNat = 0 := by omega
    dsimp only
    rw [none]
    exact Prod.ext rfl (Int.add_zero t)

theorem mantissa_ofMantissaAndAccuracy (m : Nat) (accuracy : Accuracy) :
    (ExtendedMantissa.ofMantissaAndAccuracy m accuracy).mantissa = m := by
  rcases accuracy with _ | (_ | _ | _) <;> rfl

/-- A quotient of normal size is rounded to 53 bits: `k` places are shifted out of the mantissa, and
what remains is `num / den`, rounded to nearest. -/
theorem roundWithAccuracy_normal {sign : Sign} {m a b num den k : Nat} {e : Int}
    {accuracy : Accuracy} (represents : Represents (.ofMantissaAndAccuracy m accuracy) a b)
    (positive : 0 < den) (same : a * den = num * (b * 2 ^ k)) (least : 2 ^ 52 * den ≤ num)
    (most : num < 2 ^ 53 * den) (low : -1074 ≤ e + k) :
    roundWithAccuracy .binary64 sign m e accuracy =
      normal sign (roundDiv num den) (e + k) (le_roundDiv positive least) := by
  have bPos := represents.positive
  have scaled : 0 < b * 2 ^ k := Nat.mul_pos bPos (Nat.two_pow_pos k)
  have whole : m = a / b := by
    rw [← represents.mantissa, mantissa_ofMantissaAndAccuracy]
  -- The mantissa has `k` bits more than the 53 that stay.
  have log : m.log2 = 52 + k := by
    refine log2_of_bounds ?_ ?_
    · rw [whole, Nat.le_div_iff_mul_le bPos]
      refine Nat.le_of_mul_le_mul_right ?_ positive
      calc 2 ^ (52 + k) * b * den = 2 ^ 52 * den * (b * 2 ^ k) := by ring
        _ ≤ num * (b * 2 ^ k) := Nat.mul_le_mul_right _ least
        _ = a * den := same.symm
    · rw [whole, Nat.div_lt_iff_lt_mul bPos]
      refine Nat.lt_of_mul_lt_mul_right (a := den) ?_
      calc a * den = num * (b * 2 ^ k) := same
        _ < 2 ^ 53 * den * (b * 2 ^ k) := Nat.mul_lt_mul_of_pos_right most scaled
        _ = 2 ^ (52 + k + 1) * b * den := by ring
  have target : Format.binary64.targetExponent (totalExponent m e) = e + k := by
    rw [targetExponent_eq, log]
    omega
  have shift : (e + k - e).toNat = k := by omega
  have rounded : (ExtendedMantissa.ofMantissaAndAccuracy m accuracy >>> k).roundedMantissa =
      roundDiv num den := by
    rw [(represents.shiftRight k).roundedMantissa]
    exact roundDiv_congr scaled positive same
  have upper : roundDiv num den ≤ 2 ^ 53 := roundDiv_le positive most.le
  have lower : 2 ^ 52 ≤ roundDiv num den := le_roundDiv positive least
  have first : shiftToTargetExponent .binary64 m e accuracy =
      (ExtendedMantissa.ofMantissaAndAccuracy m accuracy >>> k, e + k) := by
    unfold shiftToTargetExponent shiftToExponent
    rw [target]
    dsimp only
    rw [shift]
  -- Rounding up may have made one bit too many, which is shifted out without loss.
  have second := shiftToTargetExponent_carry lower upper low
  unfold roundWithAccuracy normal
  rw [first]
  dsimp only
  rw [rounded]
  by_cases carried : roundDiv num den = 2 ^ 53
  · rw [if_pos carried] at second ⊢
    rw [second]
    rfl
  · have some : roundDiv num den ≠ 0 := by omega
    rw [if_neg carried] at second ⊢
    rw [second]
    exact dif_neg some

end WiringQuote.Decimal
