import Mathlib.Data.List.Basic
import WiringQuote.Catalog.Selection

/-!
# Tiers in order of preference

The tiers of a request are tried in order, and the first product of the first tier that has one is
chosen.

* `Product.Available`: a product is available everywhere, or at the locations that it names.
* `mem_chain_iff`: what a chain of tiers holds.
* `chain_cons`: a requested tier that is not blank comes first.
* `bestOf_some`: what is chosen, and from which tier.
-/

namespace WiringQuote

/-- The product names no locations, or this one among others. -/
def Product.Available (product : Product) (location : Option String) : Prop :=
  product.availability = [] ∨ ∃ name, location = some name ∧ name ∈ product.availability

theorem Product.isAvailableAt_iff {product : Product} {location : Option String} :
    product.isAvailableAt location = true ↔ product.Available location := by
  unfold isAvailableAt Available
  cases location <;> simp

namespace Quality

theorem mem_distinct_iff {levels : List String} {level : String} :
    level ∈ distinct levels ↔ level ∈ levels := by
  induction levels with
  | nil => rfl
  | cons head rest ih =>
    simp only [distinct, List.mem_cons, List.mem_filter, ih, bne_iff_ne]
    constructor
    · rintro (first | ⟨later, _⟩)
      · exact .inl first
      · exact .inr later
    · intro listed
      by_cases first : level = head
      · exact .inl first
      · exact .inr ⟨listed.resolve_left first, first⟩

/-- A chain holds the requested tiers and the fallback tiers, but for blank ones. -/
theorem mem_chain_iff {requested : List (Option String)} {level : String} :
    level ∈ chain requested ↔
      (some level ∈ requested ∨ level ∈ fallback) ∧ level.isEmpty = false := by
  unfold chain
  rw [mem_distinct_iff, List.mem_filter, List.mem_append, List.mem_filterMap]
  simp

/-- A requested tier that is not blank comes first. -/
theorem chain_cons {level : String} (named : level.isEmpty = false)
    (requested : List (Option String)) : ∃ rest, chain (some level :: requested) = level :: rest := by
  show ∃ rest, distinct ((level :: (requested.filterMap id ++ fallback)).filter _) = level :: rest
  rw [List.filter_cons_of_pos (by simp [named])]
  exact ⟨_, rfl⟩

end Quality

namespace Catalog

variable {products : List Product} {tiers : List String}

theorem bestOf_cons (products : List Product) (tier : String) (rest : List String) :
    bestOf products (tier :: rest) =
      (products.find? fun product => product.quality = some tier).or (bestOf products rest) := by
  unfold bestOf
  rw [List.findSome?_cons]
  cases products.find? fun product => product.quality = some tier <;> rfl

/-- Nothing is chosen if no product is of any of the tiers. -/
theorem bestOf_none_iff : bestOf products tiers = none ↔
    ∀ tier ∈ tiers, ∀ product ∈ products, product.quality ≠ some tier := by
  unfold bestOf
  simp [List.findSome?_eq_none_iff, List.find?_eq_none]

/-- What is chosen is the first product of one of the tiers. -/
theorem bestOf_some {product : Product} (chosen : bestOf products tiers = some product) :
    ∃ tier ∈ tiers, products.find? (fun product => product.quality = some tier) = some product :=
  List.exists_of_findSome?_eq_some chosen

end Catalog

end WiringQuote
