import Mathlib.Data.Prod.Lex
import WiringQuote.Proofs.Catalog.Quality

/-!
# The product of choice

Three ways of choosing a product fall through to each other: the bucket for the quantity, the fixed
product, the tiers of quality. What is chosen in the end is told here without them: by where a product row
stands in the catalog, and where its quality stands among the tiers that are asked for.

* `bucketProduct?_eq_some_iff`: the product of the first bucket that the quantity fits, else of the last.
* `availableProduct?_eq_some_iff`: a named product counts by its first row.
* `bestOf_filter_some`: the product of the best tier is the least by tier first, and then by its row.
* `select_eq_iff`: the product for a rule.
-/

namespace WiringQuote

/-! ## Buckets -/

/-- The bucket has no limit, or the quantity is within it. -/
def Bucket.Fits (bucket : Bucket) (quantity : Number) : Prop :=
  ∀ limit, bucket.limit = some limit → quantity.atMostFloat limit = true

theorem Bucket.takes_iff {bucket : Bucket} {quantity : Number} :
    bucket.takes quantity = true ↔ bucket.Fits quantity := by
  unfold takes Fits
  cases bucket.limit <;> simp

/-- The product that the buckets name for a quantity.

* `within`: that of the first bucket that the quantity fits.
* `beyond`: that of the last bucket if the quantity fits none. -/
inductive Selector.Picks (selector : Selector) (quantity : Number) : String → Prop
  | within {before after : List Bucket} {bucket : Bucket} :
      selector.buckets = before ++ bucket :: after → (∀ earlier ∈ before, ¬ earlier.Fits quantity) →
      bucket.Fits quantity → Picks selector quantity bucket.productId
  | beyond {before : List Bucket} {last : Bucket} :
      selector.buckets = before ++ [last] → (∀ bucket ∈ selector.buckets, ¬ bucket.Fits quantity) →
      Picks selector quantity last.productId

theorem Selector.bucketProduct?_eq_some_iff {selector : Selector} {quantity : Number} {id : String} :
    selector.bucketProduct? quantity = some id ↔ selector.Picks quantity id := by
  unfold bucketProduct?
  rw [← Option.or_eq_orElse, Option.map_eq_some_iff]
  simp only [Option.or_eq_some_iff]
  constructor
  · rintro ⟨bucket, first | ⟨nothing, last⟩, rfl⟩
    · obtain ⟨taken, before, after, split, passed⟩ := List.find?_eq_some_iff_append.1 first
      refine .within split (fun earlier listed fits => ?_) (Bucket.takes_iff.1 taken)
      simpa [Bucket.takes_iff.2 fits] using passed earlier listed
    · obtain ⟨before, split⟩ := List.getLast?_eq_some_iff.1 last
      exact .beyond split fun bucket listed fits =>
        List.find?_eq_none.1 nothing bucket listed (Bucket.takes_iff.2 fits)
  · rintro (⟨split, passed, fits⟩ | ⟨split, passed⟩)
    · refine ⟨_, .inl (List.find?_eq_some_iff_append.2 ⟨Bucket.takes_iff.2 fits, _, _, split, ?_⟩), rfl⟩
      intro earlier listed
      simpa using fun taken => passed earlier listed (Bucket.takes_iff.1 taken)
    · refine ⟨_, .inr ⟨List.find?_eq_none.2 fun bucket listed taken => ?_, ?_⟩, rfl⟩
      · exact passed bucket listed (Bucket.takes_iff.1 taken)
      · rw [split, List.getLast?_concat]

/-! ## Tiers -/

namespace Quality

/-- The tiers in the order in which they are asked for, but for blank ones. -/
def preferred (globalQuality packageQuality : Option String) : List String :=
  ([globalQuality, packageQuality, some "Standard", some "Basic"].filterMap id).filter (!·.isEmpty)

/-- The chain of a demand holds its tiers, each once. -/
theorem chain_eq (globalQuality packageQuality : Option String) :
    chain [globalQuality, packageQuality] = distinct (preferred globalQuality packageQuality) := by
  cases globalQuality <;> cases packageQuality <;> rfl

/-- A tier that is asked for again is not tried again. -/
theorem findSome?_distinct {α : Type} (f : String → Option α) (levels : List String) :
    (distinct levels).findSome? f = levels.findSome? f := by
  induction levels with
  | nil => rfl
  | cons level rest ih =>
    rw [distinct, List.findSome?_cons, List.findSome?_cons]
    cases tried : f level with
    | some a => rfl
    | none =>
      dsimp only
      rw [← ih]
      generalize distinct rest = others
      induction others with
      | nil => rfl
      | cons other others skip =>
        rw [List.filter_cons, List.findSome?_cons]
        by_cases same : other = level
        · rw [if_neg (by simp [same]), skip, same, tried]
        · rw [if_pos (by simp [same]), List.findSome?_cons, skip]

end Quality

namespace Catalog

variable {products : List Product} {tiers : List String} {keep : Product → Bool} {product : Product}

/-- The product is the row at this place of the list, and its quality comes first at this place of the
tiers. -/
structure Stands (products : List Product) (tiers : List String) (tier row : Nat) (product : Product) :
    Prop where
  quality : ∃ level, product.quality = some level ∧ tiers.idxOf? level = some tier
  listed : products[row]? = some product

/-- One row stands at one place. -/
theorem Stands.unique {tier other row : Nat} {rival : Product}
    (stands : Stands products tiers tier row product)
    (stood : Stands products tiers other row rival) : product = rival :=
  Option.some.inj (stands.listed.symm.trans stood.listed)

/-- The product of the best tier is the least by its tier, and in its tier by its row. -/
theorem bestOf_filter_some (chosen : bestOf (products.filter keep) tiers = some product) :
    ∃ tier row, Stands products tiers tier row product ∧ keep product = true ∧
      ∀ other place rival, Stands products tiers other place rival → keep rival = true →
        toLex (tier, row) ≤ toLex (other, place) := by
  unfold bestOf at chosen
  obtain ⟨before, level, after, split, found, missed⟩ := List.findSome?_eq_some_iff.1 chosen
  have unnamed : level ∉ before := fun listed => by
    rw [missed level listed] at found
    cases found
  rw [List.find?_filter] at found
  obtain ⟨passed, row, inside, own, earlier⟩ := List.find?_eq_some_iff_getElem.1 found
  obtain ⟨kept, quality⟩ := of_decide_eq_true passed
  have quality : product.quality = some level := by simpa using quality
  have place : tiers.idxOf? level = some before.length := by
    rw [List.idxOf?_eq_some_iff]
    subst split
    refine ⟨by simp, by simp, fun j less => ?_⟩
    rw [List.getElem_append_left less]
    simpa using fun same : before[j] = level => unnamed (same ▸ List.getElem_mem less)
  refine ⟨before.length, row, ⟨⟨level, quality, place⟩, ?_⟩, kept, ?_⟩
  · rw [List.getElem?_eq_getElem inside, own]
  · rintro other j rival ⟨⟨rank, ranked, first⟩, listed⟩ keptRival
    obtain ⟨within, atOther, _⟩ := List.idxOf?_eq_some_iff.1 first
    rw [Prod.Lex.toLex_le_toLex]
    rcases Nat.lt_trichotomy before.length other with later | same | sooner
    · exact .inl later
    · -- Of the same tier, so it is found there unless it comes later in the list.
      refine .inr ⟨same, ?_⟩
      have sameLevel : rank = level := by
        subst same split
        simpa using atOther.symm
      by_contra less
      obtain ⟨short, there⟩ := List.getElem?_eq_some_iff.1 listed
      have skipped := earlier j (by simpa using less)
      rw [there] at skipped
      simp [keptRival, ranked, sameLevel] at skipped
    · -- Of a tier that was tried in vain.
      have tried : rank ∈ before := by
        subst split
        rw [List.getElem_append_left sooner] at atOther
        exact (by simpa using atOther : before[other] = rank) ▸ List.getElem_mem sooner
      have none := List.find?_eq_none.1 (missed rank tried) rival
        (List.mem_filter.2 ⟨List.mem_of_getElem? listed, keptRival⟩)
      exact absurd (decide_eq_true ranked) none

/-- There is no product of the best tier if there is none of any tier. -/
theorem bestOf_filter_none_iff : bestOf (products.filter keep) tiers = none ↔
    ∀ tier row product, Stands products tiers tier row product → keep product = false := by
  rw [bestOf_none_iff]
  constructor
  · rintro missing tier row product ⟨⟨level, quality, first⟩, listed⟩
    by_contra kept
    have asked : level ∈ tiers := by
      rw [← List.isSome_idxOf?, first]
      rfl
    exact missing level asked product
      (List.mem_filter.2 ⟨List.mem_of_getElem? listed, by simpa using kept⟩) quality
  · intro missing level asked product listed quality
    obtain ⟨present, kept⟩ := List.mem_filter.1 listed
    obtain ⟨tier, first⟩ := Option.isSome_iff_exists.1 (List.isSome_idxOf?.2 asked)
    obtain ⟨row, found⟩ := List.getElem?_of_mem present
    rw [missing tier row product ⟨⟨level, quality, first⟩, found⟩] at kept
    cases kept

/-! ## Named products -/

/-- The product is the first row with this id, and available at the location. -/
structure Serves (catalog : Catalog) (location : Option String) (id : String) (product : Product) :
    Prop where
  first : ∃ before after, catalog.products = before ++ product :: after ∧ ∀ row ∈ before, row.id ≠ id
  named : product.id = id
  available : product.Available location

variable {catalog : Catalog} {rule : Rule} {demand : Demand} {location : Option String}

theorem availableProduct?_eq_some_iff {id : String} :
    catalog.availableProduct? id location = some product ↔ catalog.Serves location id product := by
  unfold availableProduct? product?
  rw [Option.filter_eq_some_iff, List.find?_eq_some_iff_append, Product.isAvailableAt_iff]
  constructor
  · rintro ⟨⟨named, before, after, split, passed⟩, available⟩
    exact ⟨⟨before, after, split, by simpa using passed⟩, by simpa using named, available⟩
  · rintro ⟨⟨before, after, split, passed⟩, named, available⟩
    exact ⟨⟨decide_eq_true named, before, after, split, by simpa using passed⟩, available⟩

/-- A bucket names the product for the quantity. -/
def ByBucket (catalog : Catalog) (rule : Rule) (demand : Demand) (product : Product) : Prop :=
  ∃ id, rule.selector.Picks demand.quantity id ∧ catalog.Serves demand.location id product

/-- The rule names the product for every quantity. -/
def ByName (catalog : Catalog) (rule : Rule) (demand : Demand) (product : Product) : Prop :=
  ∃ id, rule.selector.fixed = some id ∧ catalog.Serves demand.location id product

/-- The product is of the rule's group and available, stands in this row, and is of this tier among those
that are asked for. -/
structure ByTier (catalog : Catalog) (rule : Rule) (demand : Demand) (tier row : Nat)
    (product : Product) : Prop where
  stands : Stands catalog.products (Quality.preferred demand.globalQuality demand.packageQuality) tier row
    product
  group : product.group = some rule.group
  available : product.Available demand.location

/-! ## The choice -/

/-- The product for a rule.

* `bucket`: the product of the bucket.
* `fixed`: the product that the rule names, if there is none of a bucket.
* `tier`: the product of the group that is least by its tier and then by its row, if there is neither.
* `none`: no product, if there is none in any of these ways. -/
inductive Chooses (catalog : Catalog) (rule : Rule) (demand : Demand) : Option Product → Prop
  | bucket {product : Product} : ByBucket catalog rule demand product →
      Chooses catalog rule demand (some product)
  | fixed {product : Product} : (∀ other, ¬ ByBucket catalog rule demand other) →
      ByName catalog rule demand product → Chooses catalog rule demand (some product)
  | tier {tier row : Nat} {product : Product} : (∀ other, ¬ ByBucket catalog rule demand other) →
      (∀ other, ¬ ByName catalog rule demand other) → ByTier catalog rule demand tier row product →
      (∀ other place rival, ByTier catalog rule demand other place rival →
        toLex (tier, row) ≤ toLex (other, place)) →
      Chooses catalog rule demand (some product)
  | none : (∀ other, ¬ ByBucket catalog rule demand other) →
      (∀ other, ¬ ByName catalog rule demand other) →
      (∀ tier row product, ¬ ByTier catalog rule demand tier row product) →
      Chooses catalog rule demand none

theorem bucket_eq_some_iff : ((rule.selector.bucketProduct? demand.quantity).bind fun id =>
      catalog.availableProduct? id demand.location) = some product ↔
    ByBucket catalog rule demand product := by
  simp only [Option.bind_eq_some_iff, Selector.bucketProduct?_eq_some_iff,
    availableProduct?_eq_some_iff, ByBucket]

theorem fixed_eq_some_iff : (rule.selector.fixed.bind fun id =>
      catalog.availableProduct? id demand.location) = some product ↔
    ByName catalog rule demand product := by
  simp only [Option.bind_eq_some_iff, availableProduct?_eq_some_iff, ByName]

/-- The tiers are tried over the rows of the group that are available. -/
theorem selectByQuality_eq (catalog : Catalog) (rule : Rule) (demand : Demand) :
    catalog.selectByQuality rule.group (Quality.chain [demand.globalQuality, demand.packageQuality])
        demand.location =
      bestOf (catalog.products.filter fun product =>
          product.isAvailableAt demand.location && decide (product.group = some rule.group))
        (Quality.preferred demand.globalQuality demand.packageQuality) := by
  unfold selectByQuality availableInGroup productsInGroup bestOf
  rw [Quality.chain_eq, Quality.findSome?_distinct, List.filter_filter]

theorem byTier_iff {tier row : Nat} : ByTier catalog rule demand tier row product ↔
    Stands catalog.products (Quality.preferred demand.globalQuality demand.packageQuality) tier row
        product ∧
      (product.isAvailableAt demand.location && decide (product.group = some rule.group)) = true := by
  rw [Bool.and_eq_true, decide_eq_true_iff, Product.isAvailableAt_iff]
  exact ⟨fun ⟨stands, group, available⟩ => ⟨stands, available, group⟩,
    fun ⟨stands, available, group⟩ => ⟨stands, group, available⟩⟩

/-- Where a product is named, that is the choice; else the best of the tiers is. -/
theorem chooses_select (catalog : Catalog) (rule : Rule) (demand : Demand) :
    Chooses catalog rule demand (catalog.select rule demand) := by
  unfold select
  simp only [← Option.or_eq_orElse]
  cases named : (rule.selector.bucketProduct? demand.quantity).bind fun id =>
      catalog.availableProduct? id demand.location with
  | some product => exact .bucket (bucket_eq_some_iff.1 named)
  | none =>
    have noBucket : ∀ other, ¬ ByBucket catalog rule demand other := fun other byBucket => by
      rw [bucket_eq_some_iff.2 byBucket] at named
      cases named
    cases fixed : rule.selector.fixed.bind fun id =>
        catalog.availableProduct? id demand.location with
    | some product => exact .fixed noBucket (fixed_eq_some_iff.1 fixed)
    | none =>
      have noName : ∀ other, ¬ ByName catalog rule demand other := fun other byName => by
        rw [fixed_eq_some_iff.2 byName] at fixed
        cases fixed
      rw [Option.none_or, Option.none_or, selectByQuality_eq]
      cases best : bestOf _ _ with
      | some product =>
        obtain ⟨tier, row, stands, kept, least⟩ := bestOf_filter_some best
        refine .tier noBucket noName (byTier_iff.2 ⟨stands, kept⟩) fun other place rival byTier => ?_
        obtain ⟨stood, keptRival⟩ := byTier_iff.1 byTier
        exact least other place rival stood keptRival
      | none =>
        refine .none noBucket noName fun tier row product byTier => ?_
        obtain ⟨stands, kept⟩ := byTier_iff.1 byTier
        rw [bestOf_filter_none_iff.1 best tier row product stands] at kept
        cases kept

theorem ByBucket.unique {other : Product} (first : ByBucket catalog rule demand product)
    (second : ByBucket catalog rule demand other) : product = other :=
  Option.some.inj ((bucket_eq_some_iff.2 first).symm.trans (bucket_eq_some_iff.2 second))

theorem ByName.unique {other : Product} (first : ByName catalog rule demand product)
    (second : ByName catalog rule demand other) : product = other :=
  Option.some.inj ((fixed_eq_some_iff.2 first).symm.trans (fixed_eq_some_iff.2 second))

/-- There is one choice: two rows that are both least stand in one place. -/
theorem Chooses.unique {chosen other : Option Product} (first : Chooses catalog rule demand chosen)
    (second : Chooses catalog rule demand other) : chosen = other := by
  cases first with
  | bucket one =>
    cases second with
    | bucket two => rw [one.unique two]
    | fixed noBucket | tier noBucket | none noBucket => exact absurd one (noBucket _)
  | fixed noBucket one =>
    cases second with
    | bucket two => exact absurd two (noBucket _)
    | fixed _ two => rw [one.unique two]
    | tier _ noName | none _ noName => exact absurd one (noName _)
  | tier noBucket noName one least =>
    cases second with
    | bucket two => exact absurd two (noBucket _)
    | fixed _ two => exact absurd two (noName _)
    | tier _ _ two leastOther =>
      have same := le_antisymm (least _ _ _ two) (leastOther _ _ _ one)
      obtain ⟨_, rfl⟩ := Prod.mk.inj (toLex.injective same)
      rw [one.stands.unique two.stands]
    | none _ _ nothing => exact absurd one (nothing _ _ _)
  | none noBucket noName nothing =>
    cases second with
    | bucket two => exact absurd two (noBucket _)
    | fixed _ two => exact absurd two (noName _)
    | tier _ _ two => exact absurd two (nothing _ _ _)
    | none => rfl

/-- The product for a rule is that of the bucket for the quantity, else the one that the rule names, each
by its first row and if that is available; else, among the available rows of the group whose quality is
asked for, the least by the place of its quality and then by its own place; and there is none exactly if
there is no such row. -/
theorem select_eq_iff {chosen : Option Product} :
    catalog.select rule demand = chosen ↔ Chooses catalog rule demand chosen := by
  constructor
  · rintro rfl
    exact chooses_select catalog rule demand
  · exact (chooses_select catalog rule demand).unique

end Catalog

end WiringQuote
