import Mathlib.Algebra.BigOperators.Ring.List
import Mathlib.Algebra.Order.BigOperators.Group.Finset
import Mathlib.Algebra.Ring.Nat
import WiringQuote.Proofs.OrderedMap

/-!
# Sums over the values of a map

* `sum_insert`: writing a value adds it, and takes off the one that it replaces.
* `sum_numberAt_le`: what is found under distinct keys is no more than there is.
-/

namespace WiringQuote.OrderedMap

variable {κ α : Type} [DecidableEq κ]

/-- The sum of a number that each value of the map has. -/
def sum (m : OrderedMap κ α) (f : α → Nat) : Nat := (m.values.map f).sum

/-- The number of the value under a key, zero if there is none. -/
def numberAt (m : OrderedMap κ α) (f : α → Nat) (key : κ) : Nat := ((m.get? key).map f).getD 0

theorem sum_put (key : κ) (a : α) (f : α → Nat) (entries : List (κ × α)) :
    ((put key a entries).map fun entry => f entry.2).sum +
        ((lookup key entries).map f).getD 0 =
      (entries.map fun entry => f entry.2).sum + f a := by
  induction entries with
  | nil => simp [put, lookup]
  | cons head rest ih =>
    obtain ⟨k, b⟩ := head
    by_cases same : k = key
    · simp only [put, lookup, same, if_true, List.map_cons, List.sum_cons, Option.map_some,
        Option.getD_some]
      omega
    · simp only [put, lookup, same, if_false, List.map_cons, List.sum_cons]
      omega

/-- Writing a value adds it, and takes off the one that it replaces. -/
theorem sum_insert (m : OrderedMap κ α) (f : α → Nat) (key : κ) (a : α) :
    (m.insert key a).sum f + m.numberAt f key = m.sum f + f a := by
  unfold sum values
  rw [List.map_map, List.map_map]
  exact sum_put key a f m.entries

/-- The values in the order of their keys. -/
theorem map_numberAt_keys (m : OrderedMap κ α) (f : α → Nat) : m.keys.map (m.numberAt f) = m.values.map f := by
  unfold keys values
  rw [List.map_map, List.map_map]
  refine List.map_congr_left fun entry present => ?_
  have found : m.get? entry.1 = some entry.2 := mem_entries_iff.1 present
  simp only [Function.comp_apply, numberAt, found, Option.map_some, Option.getD_some]

/-- What is found under distinct keys is no more than there is. -/
theorem sum_numberAt_le {keys : List κ} (distinct : keys.Nodup) (m : OrderedMap κ α) (f : α → Nat) :
    (keys.map (m.numberAt f)).sum ≤ m.sum f := by
  calc (keys.map (m.numberAt f)).sum = ∑ key ∈ keys.toFinset, m.numberAt f key :=
        (List.sum_toFinset _ distinct).symm
    _ ≤ ∑ key ∈ m.keys.toFinset, m.numberAt f key := by
        refine Finset.sum_le_sum_of_ne_zero fun key _ nonzero => ?_
        rw [List.mem_toFinset]
        by_contra absent
        exact nonzero (by rw [numberAt, get?_eq_none_iff.2 absent]; rfl)
    _ = (m.keys.map (m.numberAt f)).sum := List.sum_toFinset _ m.nodup
    _ = m.sum f := by rw [map_numberAt_keys, sum]

end WiringQuote.OrderedMap
