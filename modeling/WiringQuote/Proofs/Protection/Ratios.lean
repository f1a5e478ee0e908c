import WiringQuote.Proofs.Decimal.Groups
import WiringQuote.Proofs.Fallible
import WiringQuote.Protection.Device
import WiringQuote.Session.Override

/-!
# Pieces for each device

A breaker serves eight sockets or ten lights, and a residual current device six breakers. As many devices
are required as serve all pieces, and not one more, as long as each count of devices is exact: a quotient
is rounded to 53 bits, so of very many pieces the last few may be left without a device.

* `Needs`: so many devices serve the pieces, and fewer would not.
* `required_ok_iff`: what is required, by the three counts of devices.
* `required_exact_iff`: the ratios are kept exactly if each of the three counts is exact.
* `manyLights_undercounted`: so many lights, which a user may set, are left without their last breaker.
-/

namespace WiringQuote.Protection

open Decimal Fallible

/-! ## Ratios -/

/-- So many devices serve the pieces, and fewer would not. -/
structure Needs (each pieces devices : Nat) : Prop where
  served : pieces ≤ each * devices
  least : ∀ fewer < devices, each * fewer < pieces

theorem needs_iff {each pieces devices : Nat} (positive : 0 < each) :
    Needs each pieces devices ↔ devices = pieces ⌈/⌉ each := by
  constructor
  · rintro ⟨served, least⟩
    have most := (ceilDiv_le_iff_le_mul positive).2 served
    refine le_antisymm ?_ most
    by_contra fewer
    have tooFew := least _ (Nat.not_le.1 fewer)
    exact absurd ((ceilDiv_le_iff_le_mul positive).1 le_rfl) (Nat.not_le.2 tooFew)
  · rintro rfl
    refine ⟨(ceilDiv_le_iff_le_mul positive).1 le_rfl, fun fewer less => ?_⟩
    by_contra served
    exact absurd ((ceilDiv_le_iff_le_mul positive).2 (Nat.not_lt.1 served)) (Nat.not_le.2 less)

/-- The devices for so many breakers of the three kinds and residual current devices, with a main switch
as soon as there is a breaker. Kinds without a device are left out. -/
def listing (forSockets forLights forStoves residual : Nat) : List (String × Number) :=
  [(ProductGroups.breakerB16, Number.int forSockets),
    (ProductGroups.breakerB10, .int forLights),
    (ProductGroups.breakerB16ThreePole, .int forStoves),
    (ProductGroups.residualCurrent, .int residual),
    (ProductGroups.mainSwitch, .int (if 0 < forSockets + forLights + forStoves then 1 else 0))].filter
      fun device => device.2.isPositive

/-- What is required for so many sockets, lights and stoves are the devices that serve them, and not one
more. -/
def KeepsRatios (sockets lights stoves : Nat) : Prop :=
  ∃ forSockets forLights residual : Nat,
    Needs 8 sockets forSockets ∧ Needs 10 lights forLights ∧
    Needs 6 (forSockets + forLights + stoves) residual ∧
    required ⟨.int sockets, .int lights, .int stoves⟩ =
      .ok (listing forSockets forLights stoves residual)

/-! ## Counts -/

/-- A count of groups is a natural number. -/
theorem exists_natCast_of_counted {pieces each : Nat} {count : Int}
    (counted : ceilQuotient pieces each = .ok count) : ∃ n : Nat, count = n :=
  Int.eq_ofNat_of_zero_le (ceilQuotient_nonneg counted)

theorem required_ok_iff {sockets lights stoves : Nat} {devices : List (String × Number)} :
    required ⟨.int sockets, .int lights, .int stoves⟩ = .ok devices ↔
      ∃ forSockets forLights residual : Nat,
        ceilQuotient sockets 8 = .ok (forSockets : Int) ∧
        ceilQuotient lights 10 = .ok (forLights : Int) ∧
        ceilQuotient (forSockets + forLights + stoves : Nat) 6 = .ok (residual : Int) ∧
        devices = listing forSockets forLights stoves residual := by
  have switch : ∀ total : Nat, (if (Number.int total).isPositive then 1 else 0 : Int) =
      if 0 < total then 1 else 0 := by
    intro total
    simp [Number.isPositive]
  unfold required devicesFor
  simp only [bind_ok_iff, pure_ok_iff]
  constructor
  · rintro ⟨a, forSockets, b, forLights, total, added, c, residual, rfl⟩
    obtain ⟨a, rfl⟩ := exists_natCast_of_counted forSockets
    obtain ⟨b, rfl⟩ := exists_natCast_of_counted forLights
    cases added
    replace residual : ceilQuotient (a + b + stoves : Nat) 6 = .ok c := residual
    obtain ⟨c, rfl⟩ := exists_natCast_of_counted residual
    refine ⟨a, b, c, forSockets, forLights, residual, ?_⟩
    rw [show (a : Int) + b + stoves = (a + b + stoves : Nat) by push_cast; rfl, switch]
    rfl
  · rintro ⟨a, b, c, forSockets, forLights, residual, rfl⟩
    refine ⟨a, forSockets, b, forLights, .int (a + b + stoves : Nat), rfl, c, residual, ?_⟩
    rw [switch]
    rfl

/-- What is listed of a kind is its count. -/
theorem mem_listing_iff {forSockets forLights forStoves residual n : Nat} (some : 0 < n) :
    ((ProductGroups.breakerB16, .int n) ∈ listing forSockets forLights forStoves residual ↔
        n = forSockets) ∧
      ((ProductGroups.breakerB10, .int n) ∈ listing forSockets forLights forStoves residual ↔
        n = forLights) ∧
      ((ProductGroups.residualCurrent, .int n) ∈ listing forSockets forLights forStoves residual ↔
        n = residual) := by
  unfold listing ProductGroups.breakerB16 ProductGroups.breakerB10 ProductGroups.breakerB16ThreePole
    ProductGroups.residualCurrent ProductGroups.mainSwitch
  simp [List.mem_filter, Number.isPositive, some]

theorem eq_of_pos_iff {m n : Nat} (same : ∀ k, 0 < k → (k = m ↔ k = n)) : m = n := by
  rcases Nat.eq_zero_or_pos m with rfl | some
  · rcases Nat.eq_zero_or_pos n with rfl | other
    · rfl
    · exact ((same n other).2 rfl).symm
  · exact (same m some).1 rfl

/-- A listing shows each of its counts. -/
theorem listing_injective {a b c k l m stoves : Nat}
    (same : listing a b stoves c = listing k l stoves m) : a = k ∧ b = l ∧ c = m := by
  refine ⟨eq_of_pos_iff fun n some => ?_, eq_of_pos_iff fun n some => ?_,
    eq_of_pos_iff fun n some => ?_⟩
  · rw [← (mem_listing_iff some).1, same, (mem_listing_iff some).1]
  · rw [← (mem_listing_iff some).2.1, same, (mem_listing_iff some).2.1]
  · rw [← (mem_listing_iff some).2.2, same, (mem_listing_iff some).2.2]

/-! ## Exact ratios -/

variable {sockets lights stoves : Nat}

theorem keepsRatios_of_exact (forSockets : CountsExactly sockets 8) (forLights : CountsExactly lights 10)
    (residual : CountsExactly (sockets ⌈/⌉ 8 + lights ⌈/⌉ 10 + stoves) 6) :
    KeepsRatios sockets lights stoves := by
  refine ⟨_, _, _, (needs_iff (by decide)).2 rfl, (needs_iff (by decide)).2 rfl,
    (needs_iff (by decide)).2 rfl, required_ok_iff.2 ⟨_, _, _, ?_, ?_, ?_, rfl⟩⟩
  · exact (ceilQuotient_exact_iff (by decide) (by decide)).2 forSockets
  · exact (ceilQuotient_exact_iff (by decide) (by decide)).2 forLights
  · exact (ceilQuotient_exact_iff (by decide) (by decide)).2 residual

theorem exact_of_keepsRatios (keeps : KeepsRatios sockets lights stoves) :
    CountsExactly sockets 8 ∧ CountsExactly lights 10 ∧
      CountsExactly (sockets ⌈/⌉ 8 + lights ⌈/⌉ 10 + stoves) 6 := by
  obtain ⟨a, b, c, needsSockets, needsLights, needsResidual, listed⟩ := keeps
  obtain ⟨k, l, m, forSockets, forLights, residual, same⟩ := required_ok_iff.1 listed
  obtain ⟨rfl, rfl, rfl⟩ := listing_injective same
  rw [(needs_iff (by decide)).1 needsSockets] at forSockets residual needsResidual
  rw [(needs_iff (by decide)).1 needsLights] at forLights residual needsResidual
  rw [(needs_iff (by decide)).1 needsResidual] at residual
  exact ⟨(ceilQuotient_exact_iff (by decide) (by decide)).1 forSockets,
    (ceilQuotient_exact_iff (by decide) (by decide)).1 forLights,
    (ceilQuotient_exact_iff (by decide) (by decide)).1 residual⟩

/-- The breakers for so few pieces are few enough to be counted exactly. -/
theorem breakers_lt (fewSockets : sockets < 2 ^ 53) (fewLights : lights < 2 ^ 53)
    (fewStoves : stoves < 2 ^ 52) : sockets ⌈/⌉ 8 + lights ⌈/⌉ 10 + stoves < 2 ^ 53 := by
  have forSockets : sockets ⌈/⌉ 8 ≤ 2 ^ 50 := (ceilDiv_le_iff_le_mul (by decide)).2 (by omega)
  have forLights : lights ⌈/⌉ 10 ≤ 2 ^ 50 := (ceilDiv_le_iff_le_mul (by decide)).2 (by omega)
  omega

/-- The ratios are kept exactly if each of the three counts of devices is exact; so they are for less than
`2 ^ 53` sockets and lights and `2 ^ 52` stoves. -/
theorem required_exact_iff (sockets lights stoves : Nat) :
    (KeepsRatios sockets lights stoves ↔ CountsExactly sockets 8 ∧ CountsExactly lights 10 ∧
      CountsExactly (sockets ⌈/⌉ 8 + lights ⌈/⌉ 10 + stoves) 6) ∧
    (sockets < 2 ^ 53 → lights < 2 ^ 53 → stoves < 2 ^ 52 → KeepsRatios sockets lights stoves) := by
  refine ⟨⟨exact_of_keepsRatios, fun ⟨forSockets, forLights, residual⟩ => ?_⟩,
    fun fewSockets fewLights fewStoves => ?_⟩
  · exact keepsRatios_of_exact forSockets forLights residual
  · have few := breakers_lt fewSockets fewLights fewStoves
    exact keepsRatios_of_exact (countsExactly_of_few (by decide) (by decide) fewSockets)
      (countsExactly_of_few (by decide) (by decide) fewLights)
      (countsExactly_of_few (by decide) (by decide) few)

/-- A room keeps the ratios. -/
theorem room_keepsRatios : 17 < 2 ^ 53 ∧ 11 < 2 ^ 53 ∧ 2 < 2 ^ 52 ∧ KeepsRatios 17 11 2 := by
  have sockets : 17 < 2 ^ 53 := by decide
  have lights : 11 < 2 ^ 53 := by decide
  have stoves : 2 < 2 ^ 52 := by decide
  exact ⟨sockets, lights, stoves, (required_exact_iff 17 11 2).2 sockets lights stoves⟩

/-! ## A breaker that is left out -/

/-- So many lights, which a user may set as a quantity, and which leave two behind the last full breaker. -/
def manyLights : Nat := 22517998136852492

theorem manyLights_required : (required ⟨.int 0, .int manyLights, .int 0⟩).toOption =
    some (listing 0 2251799813685249 0 375299968947542) := by decide +kernel

theorem manyLights_accepted : (Override.quantity (.int manyLights)).toOption = some (manyLights : Int) := by
  decide +kernel

/-- The breakers for so many lights serve all but the last two, so they are one too few. -/
theorem manyLights_undercounted : Override.quantity (.int manyLights) = .ok (manyLights : Int) ∧
    required ⟨.int 0, .int manyLights, .int 0⟩ = .ok (listing 0 2251799813685249 0 375299968947542) ∧
    10 * 2251799813685249 + 2 = manyLights ∧ ¬ KeepsRatios 0 manyLights 0 := by
  have listed := toOption_eq_some_iff.1 manyLights_required
  refine ⟨toOption_eq_some_iff.1 manyLights_accepted, listed, by decide, ?_⟩
  rintro ⟨a, b, c, _, needsLights, _, other⟩
  obtain ⟨_, rfl, _⟩ := listing_injective (Except.ok.inj (listed.symm.trans other))
  exact absurd needsLights.served (by decide)

end WiringQuote.Protection
