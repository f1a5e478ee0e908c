import WiringQuote.Proofs.Decimal.Packing

/-!
# Bounds of finite numbers

Comparing a finite number with the bounds of what a user may set, by its sign and its magnitude:
`lt_zero_iff`, `zero_le_iff`, `le_zero_iff` and `le_fourHundred_iff`.
-/

namespace WiringQuote.Decimal

open Float.Model UnpackedFloat

variable {x y : Float} {negative : Bool} {m : Nat} {e : Int}

/-! ## Zero -/

theorem lt_iff : x < y ↔ x.toModel.unpack.compare y.toModel.unpack = some .lt := by
  show decide ((x.toModel.unpack.compare y.toModel.unpack == some .lt) = true) = true ↔ _
  simp

theorem le_iff :
    x ≤ y ↔ (x.toModel.unpack.compare y.toModel.unpack).any (·.isLE) = true := by
  show decide ((x.toModel.unpack.compare y.toModel.unpack).any (·.isLE) = true) = true ↔ _
  simp

theorem unpack_zeroLiteral : (0.0 : Float).toModel.unpack = .zero .positive := by
  have denotes : Denotes (0.0 : Float) false 0 (-1074) := by
    constructor <;> decide +kernel
  exact unpack_zero denotes

theorem lt_zero_iff (denotes : Denotes x negative m e) : x < 0.0 ↔ negative = true ∧ 0 < m := by
  rw [lt_iff, unpack_zeroLiteral]
  rcases Nat.eq_zero_or_pos m with rfl | positive
  · rw [unpack_zero denotes]
    constructor
    · intro below
      cases below
    · rintro ⟨_, some⟩
      omega
  · rw [unpack_of_denotes denotes positive]
    cases negative with
    | false =>
      constructor
      · intro below
        cases below
      · rintro ⟨sign, _⟩
        cases sign
    | true => exact ⟨fun _ => ⟨rfl, positive⟩, fun _ => rfl⟩

theorem zero_le_iff (denotes : Denotes x negative m e) : 0.0 ≤ x ↔ negative = false ∨ m = 0 := by
  rw [le_iff, unpack_zeroLiteral]
  rcases Nat.eq_zero_or_pos m with rfl | positive
  · rw [unpack_zero denotes]
    exact ⟨fun _ => .inr rfl, fun _ => rfl⟩
  · rw [unpack_of_denotes denotes positive]
    cases negative with
    | false => exact ⟨fun _ => .inl rfl, fun _ => rfl⟩
    | true =>
      constructor
      · intro below
        cases below
      · rintro (sign | none)
        · cases sign
        · omega

theorem le_zero_iff (denotes : Denotes x negative m e) : x ≤ 0 ↔ negative = true ∨ m = 0 := by
  have zero : (0 : Float).toModel.unpack = .zero .positive := by
    have denotes : Denotes (0 : Float) false 0 (-1074) := by
      constructor <;> decide +kernel
    exact unpack_zero denotes
  rw [le_iff, zero]
  rcases Nat.eq_zero_or_pos m with rfl | positive
  · rw [unpack_zero denotes]
    exact ⟨fun _ => .inr rfl, fun _ => rfl⟩
  · rw [unpack_of_denotes denotes positive]
    cases negative with
    | true => exact ⟨fun _ => .inl rfl, fun _ => rfl⟩
    | false =>
      constructor
      · intro below
        cases below
      · rintro (sign | none)
        · cases sign
        · omega

theorem not_lt_zero_iff (finite : x.isFinite = true) : ¬ x < 0.0 ↔ 0.0 ≤ x := by
  have denotes := denotes_self finite
  rw [lt_zero_iff denotes, zero_le_iff denotes]
  cases signBit x <;> simp

/-! ## The largest markup -/

theorem unpack_fourHundred : (400.0 : Float).toModel.unpack =
    .finite .positive (400 * 2 ^ 44) (-44) (by decide) := by
  have denotes : Denotes (400.0 : Float) false (400 * 2 ^ 44) (-44) := by
    constructor <;> decide +kernel
  exact unpack_of_denotes denotes (by decide)

/-- Canonical magnitudes are ordered by their exponents, then by their mantissas. -/
theorem within_fourHundred_iff (canonical : Canonical m e) :
    m * 2 ^ e.toNat ≤ 400 * 2 ^ (-e).toNat ↔ e < -44 ∨ e = -44 ∧ m ≤ 400 * 2 ^ 44 := by
  obtain ⟨bits, least, most, shape⟩ := canonical
  rcases Int.lt_trichotomy e (-44) with less | rfl | more
  · have none : e.toNat = 0 := by omega
    have units : 2 ^ 45 ≤ 2 ^ (-e).toNat := Nat.pow_le_pow_right (by decide) (by omega)
    rw [none]
    constructor <;> omega
  · simp
  · refine ⟨fun within => ?_, by omega⟩
    have normal : 2 ^ 52 ≤ m := by omega
    have units : 2 ^ (-e).toNat ≤ 2 ^ 43 := Nat.pow_le_pow_right (by decide) (by omega)
    have grows : m * 1 ≤ m * 2 ^ e.toNat := Nat.mul_le_mul_left m Nat.one_le_two_pow
    omega

theorem le_fourHundred_iff (denotes : Denotes x negative m e) :
    x ≤ 400.0 ↔ negative = true ∨ m * 2 ^ e.toNat ≤ 400 * 2 ^ (-e).toNat := by
  rw [le_iff, unpack_fourHundred]
  rcases Nat.eq_zero_or_pos m with rfl | positive
  · rw [unpack_zero denotes, Nat.zero_mul]
    exact ⟨fun _ => .inr (Nat.zero_le _), fun _ => rfl⟩
  · rw [unpack_of_denotes denotes positive, within_fourHundred_iff denotes.canonical]
    cases negative with
    | true => exact ⟨fun _ => .inl rfl, fun _ => rfl⟩
    | false =>
      show ((compare e (-44)).then (compare m (400 * 2 ^ 44))).isLE = true ↔ _
      rcases Int.lt_trichotomy e (-44) with less | rfl | more
      · rw [Int.compare_eq_lt.2 less]
        exact ⟨fun _ => .inr (.inl less), fun _ => rfl⟩
      · simp [Nat.isLE_compare]
      · rw [Int.compare_eq_gt.2 more]
        constructor
        · intro above
          cases above
        · rintro (sign | within)
          · cases sign
          · omega

end WiringQuote.Decimal
