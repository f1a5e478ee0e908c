import WiringQuote.Proofs.Catalog.Choice
import WiringQuote.Proofs.Decimal.Value

/-!
# The places of buckets

Buckets are tried as they are listed: their limits need not rise, may be repeated, missing, infinite or
undefined, and two buckets may name one product. So what a quantity is given is told by the place of its
bucket in the list, which its product alone does not tell.

* `Selector.picks_iff`: the product for a quantity is that of the bucket at its place.
* `Selector.PicksAt.le`: a quantity that fits wherever another one does has no later place.
* `Selector.bucketProduct?_monotone`: where there are buckets, every quantity has one place, and larger
  quantities have no earlier one.
-/

namespace WiringQuote

variable {smaller larger quantity : Number} {selector : Selector}

instance (bucket : Bucket) (quantity : Number) : Decidable (bucket.Fits quantity) :=
  decidable_of_iff _ Bucket.takes_iff

/-- Whatever its limit is, a bucket that a quantity fits is fit for the smaller ones. -/
theorem Bucket.Fits.of_atMost {bucket : Bucket} (fits : bucket.Fits larger)
    (less : smaller.AtMost larger) : bucket.Fits smaller := by
  intro limit limited
  have within : larger.AtMost (.float limit) := fits limit limited
  exact less.trans within

namespace Selector

/-- The bucket for a quantity, with its place in the list.

* `passed`: the quantity fits none of the buckets before it.
* `last`: if the quantity does not fit this one either, there is none after it. -/
structure PicksAt (selector : Selector) (quantity : Number) (place : Nat) (bucket : Bucket) : Prop where
  listed : selector.buckets[place]? = some bucket
  passed : ∀ earlier ∈ selector.buckets.take place, ¬ earlier.Fits quantity
  last : ¬ bucket.Fits quantity → place + 1 = selector.buckets.length

theorem picks_iff {id : String} : selector.Picks quantity id ↔
    ∃ place bucket, selector.PicksAt quantity place bucket ∧ bucket.productId = id := by
  constructor
  · rintro (@⟨before, after, bucket, split, passed, fits⟩ | @⟨before, bucket, split, passed⟩)
    · refine ⟨before.length, bucket, ⟨?_, ?_, fun beyond => absurd fits beyond⟩, rfl⟩
      · rw [split, List.getElem?_append_right le_rfl, Nat.sub_self, List.getElem?_cons_zero]
      · rwa [split, List.take_left]
    · refine ⟨before.length, bucket, ⟨?_, ?_, fun _ => ?_⟩, rfl⟩
      · rw [split, List.getElem?_concat_length]
      · exact fun earlier taken => passed earlier (List.mem_of_mem_take taken)
      · rw [split, List.length_append, List.length_singleton]
  · rintro ⟨place, bucket, ⟨listed, passed, last⟩, rfl⟩
    obtain ⟨inside, there⟩ := List.getElem?_eq_some_iff.1 listed
    have split : selector.buckets =
        selector.buckets.take place ++ bucket :: selector.buckets.drop (place + 1) := by
      rw [← there, ← List.drop_eq_getElem_cons, List.take_append_drop]
    by_cases fits : bucket.Fits quantity
    · exact .within split passed fits
    · have atEnd : selector.buckets = selector.buckets.take place ++ [bucket] := by
        rwa [last fits, List.drop_length] at split
      refine .beyond atEnd fun other among => ?_
      rw [atEnd, List.mem_append, List.mem_singleton] at among
      rcases among with earlier | rfl
      · exact passed other earlier
      · exact fits

/-- A quantity that fits every bucket that another one fits has no later place: a bucket that is passed for
it is passed for the other one, unless it is the last. -/
theorem PicksAt.le {place other : Nat} {bucket rival : Bucket}
    (fewer : ∀ bucket : Bucket, bucket.Fits larger → bucket.Fits smaller)
    (first : selector.PicksAt smaller place bucket) (second : selector.PicksAt larger other rival) :
    place ≤ other := by
  by_contra before
  have inside := (List.getElem?_eq_some_iff.1 first.listed).1
  have taken : rival ∈ selector.buckets.take place := by
    rw [List.mem_take_iff_getElem]
    obtain ⟨short, there⟩ := List.getElem?_eq_some_iff.1 second.listed
    exact ⟨other, by omega, there⟩
  have beyond : ¬ rival.Fits larger := fun fits => first.passed rival taken (fewer rival fits)
  have := second.last beyond
  omega

/-- A quantity has one place. -/
theorem PicksAt.place_unique {place other : Nat} {bucket rival : Bucket}
    (first : selector.PicksAt quantity place bucket) (second : selector.PicksAt quantity other rival) :
    place = other :=
  le_antisymm (first.le (fun _ fits => fits) second) (second.le (fun _ fits => fits) first)

/-- Where there are buckets, every quantity is given the product of one of them. -/
theorem exists_picksAt (nonempty : selector.buckets ≠ []) (quantity : Number) :
    ∃ place bucket, selector.PicksAt quantity place bucket ∧
      selector.bucketProduct? quantity = some bucket.productId := by
  obtain ⟨id, chosen⟩ : ∃ id, selector.bucketProduct? quantity = some id := by
    unfold bucketProduct?
    rw [← Option.isSome_iff_exists, Option.isSome_map, ← Option.or_eq_orElse, Option.isSome_or,
      List.getLast?_isSome.2 nonempty, Bool.or_true]
  obtain ⟨place, bucket, picked, rfl⟩ := picks_iff.1 (bucketProduct?_eq_some_iff.1 chosen)
  exact ⟨place, bucket, picked, chosen⟩

/-- Where there are buckets, in any order and with any limits, every quantity is given the product of the
bucket at its one place, and a larger quantity has no earlier place than a smaller one. -/
theorem bucketProduct?_monotone (nonempty : selector.buckets ≠ []) :
    (∀ quantity, ∃ place bucket, selector.PicksAt quantity place bucket ∧
      selector.bucketProduct? quantity = some bucket.productId ∧
      ∀ other rival, selector.PicksAt quantity other rival → other = place) ∧
    ∀ smaller larger : Number, smaller.AtMost larger →
      ∀ place bucket other rival, selector.PicksAt smaller place bucket →
        selector.PicksAt larger other rival → place ≤ other := by
  constructor
  · intro quantity
    obtain ⟨place, bucket, picked, chosen⟩ := exists_picksAt nonempty quantity
    exact ⟨place, bucket, picked, chosen, fun other rival again => again.place_unique picked⟩
  · intro smaller larger less place bucket other rival first second
    exact first.le (fun _ fits => fits.of_atMost less) second

/-- Limits out of order, one of them undefined and one repeated, and one product named twice. -/
def unsorted : Selector :=
  ⟨[⟨some (0 / 0), "S"⟩, ⟨some 8, "M"⟩, ⟨some 4, "S"⟩, ⟨some 8, "L"⟩], none⟩

/-- Five items go to the second bucket, and more than nine to the last one. -/
theorem unsorted_monotone : unsorted.buckets ≠ [] ∧ (Number.int 5).AtMost (.float 9.5) ∧
    unsorted.PicksAt (.int 5) 1 ⟨some 8, "M"⟩ ∧ unsorted.PicksAt (.float 9.5) 3 ⟨some 8, "L"⟩ ∧
    unsorted.bucketProduct? (.int 5) = some "M" ∧
    ∀ place bucket other rival, unsorted.PicksAt (.int 5) place bucket →
      unsorted.PicksAt (.float 9.5) other rival → place ≤ other := by
  have nonempty : unsorted.buckets ≠ [] := List.cons_ne_nil _ _
  have less : (Number.int 5).AtMost (.float 9.5) := by
    show Number.atMostFloat _ _ = true
    decide +kernel
  have five : unsorted.PicksAt (.int 5) 1 ⟨some 8, "M"⟩ := ⟨rfl, by decide +kernel, by decide +kernel⟩
  have nine : unsorted.PicksAt (.float 9.5) 3 ⟨some 8, "L"⟩ :=
    ⟨rfl, by decide +kernel, by decide +kernel⟩
  obtain ⟨places, order⟩ := bucketProduct?_monotone nonempty
  obtain ⟨place, bucket, picked, chosen, alone⟩ := places (.int 5)
  obtain rfl := alone 1 _ five
  obtain rfl := Option.some.inj (five.listed.symm.trans picked.listed)
  exact ⟨nonempty, less, five, nine, chosen, order _ _ less⟩

end Selector

end WiringQuote
