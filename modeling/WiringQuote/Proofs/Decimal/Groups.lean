import WiringQuote.Proofs.Decimal.Quotient

/-!
# Groups that are counted exactly

The number of groups is taken from a quotient with 53 bits, so a rest of pieces that is less than half of
the last bit is rounded away. Up to `2 ^ 53` groups that is the only error, since integers have a place
among the quotients; beyond them, the integers that have none cannot be counted at all.

* `lt_roundDiv_iff`: where a rounded quotient exceeds an integer.
* `scale_eq`: the last of the 53 bits, by the number of full groups.
* `ceilQuotient_exact_iff`: when the number of groups is exact.
-/

namespace WiringQuote.Decimal

variable {num den : Nat}

/-- A rounded quotient exceeds an integer if the quotient is more than half a unit above it, or just half
a unit above an odd one. -/
theorem lt_roundDiv_iff (positive : 0 < den) {k : Nat} : k < roundDiv num den ↔
    (2 * k + 1) * den < 2 * num ∨ (2 * k + 1) * den = 2 * num ∧ k % 2 = 1 := by
  have parts := Nat.div_add_mod num den
  have small := Nat.mod_lt num positive
  rw [roundDiv_eq positive]
  generalize num / den = q at parts
  generalize num % den = r at parts small
  subst parts
  rw [Nat.mul_comm den, Nat.add_mul, Nat.one_mul, Nat.mul_add, Nat.mul_assoc 2 k]
  -- The cases are the place of the integer before, at or behind the integer part.
  rcases Nat.lt_trichotomy k q with less | rfl | more
  · have step : (k + 1) * den ≤ q * den := Nat.mul_le_mul_right den less
    rw [Nat.add_mul, Nat.one_mul] at step
    split_ifs <;> omega
  · split_ifs <;> omega
  · have step : (q + 1) * den ≤ k * den := Nat.mul_le_mul_right den more
    rw [Nat.add_mul, Nat.one_mul] at step
    split_ifs <;> omega

/-! ## The last bit -/

/-- With a full group, the last of the 53 bits is 52 places below the first bit of the number of full
groups. -/
theorem Quotient.scale_eq (positive : 0 < den) (full : den ≤ num) :
    scale num den = (num / den).log2 - 52 := by
  obtain ⟨least, most⟩ := scale_bounds (positive.trans_le full) positive
  generalize scale num den = e at least most ⊢
  rcases Int.lt_or_le e 0 with below | above
  · obtain ⟨p, rfl⟩ : ∃ p : Nat, e = -p := ⟨(-e).toNat, by omega⟩
    have numerator : (- -(p : Int)).toNat = p := by omega
    have denominator : (-(p : Int)).toNat = 0 := by omega
    rw [numerator, denominator, Nat.pow_zero, Nat.mul_one] at least most
    have few : p < 53 := by
      by_contra many
      refine Nat.lt_irrefl (den * 2 ^ 53) ?_
      calc den * 2 ^ 53 ≤ num * 2 ^ p := by gcongr <;> omega
        _ < den * 2 ^ 53 := most
    have split : ∀ k, p ≤ k → den * 2 ^ k = den * 2 ^ (k - p) * 2 ^ p := fun k enough => by
      rw [Nat.mul_assoc, ← Nat.pow_add, Nat.sub_add_cancel enough]
    rw [split 52 (by omega)] at least
    rw [split 53 (by omega)] at most
    have first : (num / den).log2 = 52 - p := by
      refine log2_of_bounds ?_ ?_
      · rw [Nat.le_div_iff_mul_le positive, Nat.mul_comm]
        exact Nat.le_of_mul_le_mul_right least (Nat.two_pow_pos p)
      · rw [Nat.div_lt_iff_lt_mul positive, Nat.mul_comm, show 52 - p + 1 = 53 - p by omega]
        exact Nat.lt_of_mul_lt_mul_right most
    omega
  · obtain ⟨k, rfl⟩ := Int.eq_ofNat_of_zero_le above
    have numerator : (-(k : Int)).toNat = 0 := by omega
    rw [numerator, Int.toNat_natCast, Nat.pow_zero, Nat.mul_one, Nat.mul_assoc,
      ← Nat.pow_add] at least most
    have first : (num / den).log2 = k + 52 := by
      refine log2_of_bounds ?_ ?_
      · rw [Nat.le_div_iff_mul_le positive, Nat.mul_comm]
        exact least
      · rw [Nat.div_lt_iff_lt_mul positive, Nat.mul_comm]
        exact most
    omega

/-! ## Exact counts -/

/-- Rounding keeps the rest of the pieces: it is more than half of the last of 53 bits, or just half of
it above an odd number of groups. -/
def KeepsRest (num den : Nat) : Prop :=
  den * 2 ^ (num / den).log2 < num % den * 2 ^ 53 ∨
    (num / den).log2 = 52 ∧ den = num % den * 2 ∧ num / den % 2 = 1

/-- So many pieces are counted exactly: there are at most `2 ^ 53` groups, and all of them are full or
rounding keeps the rest, or there are more, and 53 bits are enough for their number. -/
def CountsExactly (num den : Nat) : Prop :=
  num < den * 2 ^ 53 ∧ (num % den = 0 ∨ KeepsRest num den) ∨
    den * 2 ^ 53 ≤ num ∧ 2 ^ ((num / den).log2 - 52) ∣ num ⌈/⌉ den ∧ num ⌈/⌉ den < 2 ^ 1024

/-- With a rest, the last group counts as well. -/
theorem ceilDiv_of_rest (positive : 0 < den) (rest : num % den ≠ 0) : num ⌈/⌉ den = num / den + 1 := by
  have parts := Nat.div_add_mod num den
  have small := Nat.mod_lt num positive
  refine le_antisymm ((ceilDiv_le_iff_le_mul positive).2 ?_) ?_
  · rw [Nat.mul_add, Nat.mul_one]
    omega
  · by_contra less
    have most := (ceilDiv_le_iff_le_mul positive).1 (Nat.le_of_lt_succ (Nat.not_le.1 less))
    omega

/-- The groups hold less than one group too many. -/
theorem mul_ceilDiv_lt (num : Nat) (positive : 0 < den) : den * (num ⌈/⌉ den) < num + den := by
  rw [Nat.ceilDiv_eq_add_pred_div]
  have most := Nat.mul_div_le (num + den - 1) den
  omega

/-- In fractions of a group, so many places behind the point, the rest is rounded away unless it is more
than half a place, or just half a place above an odd number. -/
theorem ceil_fraction (positive : 0 < den) (places : Nat) :
    roundDiv (num * 2 ^ places) den ⌈/⌉ 2 ^ places = num ⌈/⌉ den ↔
      num % den = 0 ∨ den < num % den * 2 ^ (places + 1) ∨
        places = 0 ∧ den = num % den * 2 ∧ num / den % 2 = 1 := by
  have unit : 0 < 2 ^ places := Nat.two_pow_pos places
  have parts := Nat.div_add_mod num den
  by_cases rest : num % den = 0
  · rw [rest, Nat.add_zero] at parts
    have scaled : num * 2 ^ places = num / den * 2 ^ places * den := by
      rw [Nat.mul_right_comm, Nat.mul_comm (num / den), parts]
    have whole : num ⌈/⌉ den = num / den := by
      conv_lhs => rw [← parts, ← smul_eq_mul]
      exact smul_ceilDiv positive _
    rw [scaled, roundDiv_mul positive, whole, Nat.mul_comm, ← smul_eq_mul, smul_ceilDiv unit]
    simp [rest]
  · have most : roundDiv (num * 2 ^ places) den ⌈/⌉ 2 ^ places ≤ num / den + 1 := by
      rw [ceilDiv_le_iff_le_mul unit, ← ceilDiv_of_rest positive rest]
      refine roundDiv_le positive ?_
      have enough := (ceilDiv_le_iff_le_mul positive).1 (le_refl (num ⌈/⌉ den))
      calc num * 2 ^ places ≤ den * (num ⌈/⌉ den) * 2 ^ places := Nat.mul_le_mul_right _ enough
        _ = 2 ^ places * (num ⌈/⌉ den) * den := by ring
    have above : roundDiv (num * 2 ^ places) den ⌈/⌉ 2 ^ places = num / den + 1 ↔
        num / den * 2 ^ places < roundDiv (num * 2 ^ places) den := by
      rw [← Nat.not_le, Nat.mul_comm (num / den), ← ceilDiv_le_iff_le_mul unit]
      omega
    rw [ceilDiv_of_rest positive rest, above, lt_roundDiv_iff positive]
    have twice : 2 * (num * 2 ^ places) =
        2 * (num / den * 2 ^ places) * den + num % den * 2 ^ (places + 1) := by
      conv_lhs => rw [← parts]
      ring
    have odd : num / den * 2 ^ places % 2 = 1 ↔ places = 0 ∧ num / den % 2 = 1 := by
      cases places with
      | zero => simp
      | succ p => rw [Nat.pow_succ, ← Nat.mul_assoc, Nat.mul_mod_left]; simp
    rw [twice, odd, Nat.add_mul, Nat.one_mul]
    simp only [rest, false_or, Nat.add_lt_add_iff_left, Nat.add_left_cancel_iff]
    refine or_congr_right ⟨?_, ?_⟩
    · rintro ⟨half, none, up⟩
      subst none
      exact ⟨rfl, half, up⟩
    · rintro ⟨none, half, up⟩
      subst none
      exact ⟨half, rfl, up⟩

/-- Up to `2 ^ 53` groups, rounding loses nothing but a rest. -/
theorem ceil_rounded_small (some : 0 < num) (positive : 0 < den) (bits : den < 2 ^ 53)
    (small : num < den * 2 ^ 53) :
    (Quotient.rounded num den).ceil = num ⌈/⌉ den ↔ num % den = 0 ∨ KeepsRest num den := by
  obtain ⟨least, most⟩ := Quotient.scale_bounds some positive
  have counted : (Quotient.rounded num den).ceil =
      (Quotient.rounded num den).numerator ⌈/⌉ (Quotient.rounded num den).denominator := rfl
  have power : ∀ k, Nat.pow 2 k = 2 ^ k := fun _ => rfl
  have scaled := @Quotient.scale_eq num den positive
  rw [counted]
  unfold Quotient.rounded Quotient.numerator Quotient.denominator
  dsimp only
  simp only [power]
  generalize Quotient.scale num den = e at least most scaled ⊢
  have below : e.toNat = 0 := by
    by_contra up
    have none : (-e).toNat = 0 := by omega
    have twice : 2 ^ 1 ≤ 2 ^ e.toNat := Nat.pow_le_pow_right (by decide) (by omega)
    have more : den * 2 ^ 1 * 2 ^ 52 ≤ den * 2 ^ e.toNat * 2 ^ 52 :=
      Nat.mul_le_mul_right _ (Nat.mul_le_mul_left _ twice)
    rw [none] at least
    omega
  rw [below, Nat.pow_zero, Nat.mul_one] at least most
  rw [below, Nat.pow_zero, Nat.mul_one, Nat.mul_one, ceil_fraction positive]
  refine or_congr_right ?_
  unfold KeepsRest
  rcases lt_or_ge num den with part | full
  · -- A part of one group, which no rounding makes none.
    have rest : num % den = num := Nat.mod_eq_of_lt part
    have none : num / den = 0 := Nat.div_eq_of_lt part
    rw [rest, none]
    refine iff_of_true (.inl ?_) (.inl ?_)
    · rw [Nat.pow_succ, ← Nat.mul_assoc]
      omega
    · simp
      omega
  · have first := scaled full
    have places : (-e).toNat + (num / den).log2 = 52 := by omega
    generalize (num / den).log2 = bits at first places ⊢
    have unit : 0 < 2 ^ bits := Nat.two_pow_pos bits
    have grown : num % den * 2 ^ 53 = num % den * 2 ^ ((-e).toNat + 1) * 2 ^ bits := by
      rw [Nat.mul_assoc, ← Nat.pow_add]
      congr 2
      omega
    rw [grown, Nat.mul_lt_mul_right unit]
    refine or_congr_right (and_congr_left fun _ => ?_)
    omega

/-- Beyond `2 ^ 53` groups, their number is exact if it has a place among the quotients. -/
theorem ceil_rounded_large (positive : 0 < den) (large : den * 2 ^ 53 ≤ num) :
    ((Quotient.rounded num den).inRange = true ∧
        (Quotient.rounded num den).ceil = num ⌈/⌉ den) ↔
      2 ^ ((num / den).log2 - 52) ∣ num ⌈/⌉ den ∧ num ⌈/⌉ den < 2 ^ 1024 := by
  have power : ∀ k, Nat.pow 2 k = 2 ^ k := fun _ => rfl
  have full : den ≤ num := (Nat.le_mul_of_pos_right den (Nat.two_pow_pos 53)).trans large
  have groups : 2 ^ 53 ≤ num / den := (Nat.le_div_iff_mul_le positive).2 (by rwa [Nat.mul_comm])
  have first : 53 ≤ (num / den).log2 := by
    rw [Nat.le_log2 (by omega)]
    exact groups
  have scaled := Quotient.scale_eq positive full
  obtain ⟨k, more⟩ : ∃ k, (num / den).log2 - 52 = k + 1 := ⟨(num / den).log2 - 53, by omega⟩
  have exponent : Quotient.scale num den = (k + 1 : Nat) := by omega
  rw [more]
  unfold Quotient.inRange Quotient.ceil Quotient.rounded Quotient.numerator Quotient.denominator
  dsimp only
  simp only [power, exponent]
  have whole : (-((k + 1 : Nat) : Int)).toNat = 0 := by omega
  rw [whole, Int.toNat_natCast, Nat.pow_zero, Nat.mul_one, Nat.one_mul, Nat.add_sub_cancel, Nat.div_one,
    decide_eq_true_eq]
  -- The groups hold less than one group too many, and a place is at least two groups wide.
  have near : ∀ j, num ⌈/⌉ den = 2 ^ (k + 1) * j → roundDiv num (den * 2 ^ (k + 1)) = j := by
    intro j onGrid
    have enough := (ceilDiv_le_iff_le_mul positive).1 (le_refl (num ⌈/⌉ den))
    have tight := mul_ceilDiv_lt num positive
    have wide : den * 2 ≤ den * 2 ^ (k + 1) :=
      Nat.mul_le_mul_left _ (Nat.pow_le_pow_right Nat.two_pos (Nat.le_add_left 1 k))
    have held : j * (den * 2 ^ (k + 1)) = den * (num ⌈/⌉ den) := by
      rw [onGrid]
      ring
    exact roundDiv_of_near (by omega) (by omega)
  generalize 2 ^ 1024 = limit
  constructor
  · rintro ⟨inRange, same⟩
    rw [← same]
    exact ⟨Nat.dvd_mul_left _ _, inRange⟩
  · rintro ⟨⟨j, onGrid⟩, inRange⟩
    have same : j * 2 ^ (k + 1) = num ⌈/⌉ den := by rw [onGrid, Nat.mul_comm]
    rw [near j onGrid, same]
    exact ⟨inRange, rfl⟩

/-- The number of groups is exact if and only if no rest is rounded away and, where 53 bits are too few
for every integer, they are enough for this one. -/
theorem ceilQuotient_exact_iff (positive : 0 < den) (bits : den < 2 ^ 53) :
    ceilQuotient num den = .ok (num ⌈/⌉ den : Nat) ↔ CountsExactly num den := by
  rcases Nat.eq_zero_or_pos num with rfl | some
  · refine iff_of_true ?_ (.inl ⟨Nat.mul_pos positive (Nat.two_pow_pos 53), .inl (Nat.zero_mod den)⟩)
    rw [zero_ceilDiv]
    rfl
  · rw [ceilQuotient_ok_iff some]
    unfold CountsExactly
    rcases lt_or_ge num (den * 2 ^ 53) with small | large
    · have range : 2 ^ 53 ≤ 2 ^ 1024 - 2 ^ 970 := by decide +kernel
      have inRange : (Quotient.rounded num den).inRange = true :=
        Quotient.rounded_inRange some positive (small.trans_le (Nat.mul_le_mul_left _ range))
      rw [ceil_rounded_small some positive bits small]
      simp only [inRange, small, Nat.not_le.2 small, true_and, false_and, or_false]
    · rw [ceil_rounded_large positive large]
      simp only [large, Nat.not_lt.2 large, true_and, false_and, false_or]

/-- Of less than `2 ^ 53` pieces, any rest is more than half of the last bit. -/
theorem countsExactly_of_few (positive : 0 < den) (bits : den < 2 ^ 53) (few : num < 2 ^ 53) :
    CountsExactly num den := by
  refine .inl ⟨few.trans_le (Nat.le_mul_of_pos_left _ positive), ?_⟩
  refine or_iff_not_imp_left.2 fun rest => .inl ?_
  have held : den * 2 ^ (num / den).log2 < 2 ^ 53 := by
    rcases Nat.eq_zero_or_pos (num / den) with none | some
    · rw [none]
      simpa using bits
    · calc den * 2 ^ (num / den).log2 ≤ den * (num / den) :=
            Nat.mul_le_mul_left _ (Nat.log2_self_le some.ne')
        _ ≤ num := Nat.mul_div_le num den
        _ < 2 ^ 53 := few
  exact held.trans_le (Nat.le_mul_of_pos_left _ (Nat.pos_of_ne_zero rest))

/-- So many pieces are counted without an error. -/
theorem ceilQuotient_exact (positive : 0 < den) (bits : den < 2 ^ 53) (few : num < 2 ^ 53) :
    ceilQuotient num den = .ok (num ⌈/⌉ den : Nat) :=
  (ceilQuotient_exact_iff positive bits).2 (countsExactly_of_few positive bits few)

end WiringQuote.Decimal
