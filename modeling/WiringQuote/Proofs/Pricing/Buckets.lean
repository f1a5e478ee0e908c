import WiringQuote.Pricing.Quote
import WiringQuote.Proofs.Fallible
import WiringQuote.Proofs.Grouping
import WiringQuote.Proofs.OrderedMap

/-!
# Every row is priced once

The figures of rows are added up by package, by selected package and by category. `CountsOnce` says
that none of these groupings misses a row or counts one twice:

* `Totals.SumsUp`: every figure of a total is a sum of its own, from left to right.
* `sumItems_accumulates`: the total of some rows sums up theirs.
* `grandTotals_ok`: the buckets of a grand total, one for each package and one for the protection devices.
* `categoryTotals_tallies`: each category adds up the rows that count under it.
* `grandTotals_countsOnce`: rows have a grand total exactly if each of them has figures, and every
  row counts once in it.
-/

namespace WiringQuote

open Fallible Grouping

/-! ## Definition -/

/-- Numbers added up from left to right, from zero. -/
def leftSum (numbers : List Float) : Float := numbers.foldl (· + ·) 0.0

/-- Every figure of the total adds up that figure of the parts. -/
structure Totals.SumsUp (parts : List Totals) (total : Totals) : Prop where
  itemCount : total.itemCount = (parts.map (·.itemCount)).sum
  materialPurchase : total.materialPurchase = leftSum (parts.map (·.materialPurchase))
  materialSales : total.materialSales = leftSum (parts.map (·.materialSales))
  hours : ∀ role, total.hours.get role = leftSum (parts.map (·.hours.get role))
  totalHours : total.totalHours = leftSum (parts.map (·.totalHours))
  laborCost : total.laborCost = leftSum (parts.map (·.laborCost))
  total : total.total = leftSum (parts.map (·.total))

/-- The buckets that a grand total adds up, the one of the protection devices last. -/
def GrandTotals.buckets (grand : GrandTotals) : List (Value × Totals) :=
  grand.packages ++ [(Protection.packageId, grand.protection)]

namespace Pricing

/-- The total adds up the figures of exactly these rows, in their order. -/
def Accumulates (pricing : Pricing) (items : List LineItem) (total : Totals) : Prop :=
  ∃ parts : List ItemTotals,
    List.Forall₂ (fun item part => pricing.itemTotals item = .ok part) items parts ∧
      Totals.SumsUp (parts.map (·.figures)) total

/-- The rows of an instance. -/
def rowsOf (items : List LineItem) (instanceId : String) : List LineItem :=
  items.filter fun item => item.instanceId = instanceId

/-- The categories add up the rows that count under them, each of which has a row. -/
structure Tallies (pricing : Pricing) (items : List LineItem)
    (categories : OrderedMap String Totals) : Prop where
  keys : categories.keys = (items.map categoryOf).eraseDups
  accumulated : ∀ name total, categories.get? name = some total →
    pricing.Accumulates (items.filter fun item => categoryOf item = name) total

/-- Every row counts once in the grand total, in the totals of the instances and in those of the
categories of an instance. -/
structure CountsOnce (pricing : Pricing) (items : List LineItem) (grand : GrandTotals) : Prop where
  /-- One bucket for each package, in order of first appearance. -/
  order : grand.packages.map (·.1.key) = ((items.map (·.packageId.key)).filter
    fun key => key ≠ Protection.packageId.key).eraseDups
  distinct : (grand.packages.map (·.1.key)).Nodup
  apart : ∀ bucket ∈ grand.packages, bucket.1.key ≠ Protection.packageId.key
  /-- Each row falls into one bucket. -/
  placed : ∀ item ∈ items, ∃! bucket, bucket ∈ grand.buckets ∧ item.packageId.key = bucket.1.key
  accumulated : ∀ bucket ∈ grand.buckets,
    pricing.Accumulates (items.filter fun item => item.packageId.key = bucket.1.key) bucket.2
  sum : Totals.SumsUp (grand.buckets.map (·.2)) grand.sum
  counted : (grand.buckets.map (·.2.itemCount)).sum = items.length
  instances : ∃ totals,
    List.Forall₂ (fun id total => pricing.instanceTotals items id = .ok total ∧
      pricing.Accumulates (rowsOf items id) total) (items.map (·.instanceId)).eraseDups totals ∧
    (totals.map (·.itemCount)).sum = items.length
  categories : ∀ id, ∃ categories, pricing.categoryTotals items id = .ok categories ∧
    pricing.Tallies (rowsOf items id) categories ∧
    (categories.values.map (·.itemCount)).sum = (rowsOf items id).length

end Pricing

/-! ## Sums of figures -/

namespace Totals

theorem sumsUp_zero : SumsUp [] .zero where
  itemCount := rfl
  materialPurchase := rfl
  materialSales := rfl
  hours role := by cases role <;> rfl
  totalHours := rfl
  laborCost := rfl
  total := rfl

/-- One more part is added to every figure. -/
theorem SumsUp.snoc {parts : List Totals} {total : Totals} (sums : SumsUp parts total)
    (part : Totals) : SumsUp (parts ++ [part]) (total.add part) := by
  have last (figure : Totals → Float) : leftSum ((parts ++ [part]).map figure) =
      leftSum (parts.map figure) + figure part := by
    simp [leftSum]
  exact {
    itemCount := by simp [add, sums.itemCount]
    materialPurchase := by rw [last, ← sums.materialPurchase]; rfl
    materialSales := by rw [last, ← sums.materialSales]; rfl
    hours := fun role => by rw [last, ← sums.hours]; cases role <;> rfl
    totalHours := by rw [last, ← sums.totalHours]; rfl
    laborCost := by rw [last, ← sums.laborCost]; rfl
    total := by rw [last, ← sums.total]; rfl }

theorem sumsUp_foldl (parts : List Totals) : SumsUp parts (parts.foldl add .zero) := by
  induction parts using List.reverseRecOn with
  | nil => exact sumsUp_zero
  | append_singleton rest part ih =>
    rw [List.foldl_append]
    exact ih.snoc part

end Totals

/-! ## Sums of rows -/

namespace Pricing

section Sums

variable {pricing : Pricing} {items : List LineItem}

theorem accumulates_nil : pricing.Accumulates [] .zero := ⟨[], .nil, Totals.sumsUp_zero⟩

theorem Accumulates.snoc {total : Totals} (accumulates : pricing.Accumulates items total)
    {item : LineItem} {part : ItemTotals} (priced : pricing.itemTotals item = .ok part) :
    pricing.Accumulates (items ++ [item]) (total.add part.figures) := by
  obtain ⟨parts, each, sums⟩ := accumulates
  refine ⟨parts ++ [part], List.rel_append each (.cons priced .nil), ?_⟩
  rw [List.map_append]
  exact sums.snoc part.figures

/-- The total of some rows sums up theirs. -/
theorem sumItems_accumulates {total : Totals} (summed : pricing.sumItems items = .ok total) :
    pricing.Accumulates items total := by
  refine foldlM_prefix (p := pricing.Accumulates) summed accumulates_nil ?_
  intro done item sum next _ accumulates stepped
  obtain ⟨part, priced, same⟩ := bind_ok_iff.1 stepped
  cases pure_ok_iff.1 same
  exact accumulates.snoc priced

theorem itemCount_itemTotals {item : LineItem} {part : ItemTotals}
    (priced : pricing.itemTotals item = .ok part) : part.figures.itemCount = 1 := by
  unfold itemTotals at priced
  simp only [bind_ok_iff, pure_ok_iff] at priced
  obtain ⟨_, _, _, _, _, _, rfl⟩ := priced
  rfl

theorem Accumulates.itemCount {total : Totals} (accumulates : pricing.Accumulates items total) :
    total.itemCount = items.length := by
  obtain ⟨parts, each, sums⟩ := accumulates
  rw [sums.itemCount, List.map_map]
  clear sums
  induction each with
  | nil => rfl
  | cons priced _ ih =>
    rw [List.map_cons, List.sum_cons, ih, List.length_cons, Function.comp_apply,
      itemCount_itemTotals priced, Nat.add_comm]

theorem sumItems_total (priced : ∀ item ∈ items, ∃ part, pricing.itemTotals item = .ok part) :
    ∃ total, pricing.sumItems items = .ok total := by
  refine (foldlM_total (p := fun _ => True) trivial fun item listed sum _ => ?_).imp
    fun _ summed => summed.1
  obtain ⟨part, own⟩ := priced item listed
  exact ⟨_, bind_ok_iff.2 ⟨part, own, rfl⟩, trivial⟩

theorem priced_of_accumulates {total : Totals} (accumulates : pricing.Accumulates items total) :
    ∀ item ∈ items, ∃ part, pricing.itemTotals item = .ok part := by
  obtain ⟨parts, each, sums⟩ := accumulates
  clear sums
  induction each with
  | nil => simp
  | cons priced _ ih =>
    intro item listed
    rcases List.mem_cons.1 listed with rfl | listed
    · exact ⟨_, priced⟩
    · exact ih item listed

end Sums

/-! ## Instances -/

section Groups

variable {pricing : Pricing} {items : List LineItem}

theorem instances_total (priced : ∀ item ∈ items, ∃ part, pricing.itemTotals item = .ok part) :
    ∃ totals,
      List.Forall₂ (fun id total => pricing.instanceTotals items id = .ok total ∧
        pricing.Accumulates (rowsOf items id) total) (items.map (·.instanceId)).eraseDups totals ∧
      (totals.map (·.itemCount)).sum = items.length := by
  have each : ∀ id ∈ (items.map (·.instanceId)).eraseDups,
      ∃ total, pricing.instanceTotals items id = .ok total := fun id _ =>
    sumItems_total fun item listed => priced item (List.mem_of_mem_filter listed)
  obtain ⟨totals, summed⟩ := mapM_total each
  have pairs := (mapM_ok_iff.1 summed).imp fun id total done =>
    (⟨done, sumItems_accumulates done⟩ : pricing.instanceTotals items id = .ok total ∧
      pricing.Accumulates (rowsOf items id) total)
  refine ⟨totals, pairs, ?_⟩
  have counts : (items.map (·.instanceId)).eraseDups.map (fun id => (rowsOf items id).length) =
      totals.map (·.itemCount) :=
    map_eq_map_of_pairs (pairs.imp fun _ _ one => one.2.itemCount.symm)
  rw [← counts]
  exact sum_length_filter (nodup_eraseDups _) fun item listed =>
    List.mem_eraseDups.2 (List.mem_map_of_mem listed)

/-! ## Categories -/

theorem tallies_nil : pricing.Tallies [] .empty where
  keys := rfl
  accumulated := by
    intro name total found
    rw [OrderedMap.get?_empty] at found
    cases found

/-- One more row is added to its category, which is new if no row counted under it before. -/
theorem Tallies.snoc {categories : OrderedMap String Totals}
    (tallies : pricing.Tallies items categories) {item : LineItem} {part : ItemTotals}
    (priced : pricing.itemTotals item = .ok part) :
    pricing.Tallies (items ++ [item]) (categories.insert (categoryOf item)
      (((categories.get? (categoryOf item)).getD .zero).add part.figures)) where
  keys := by
    rw [OrderedMap.keys_insert, tallies.keys, List.map_append, List.map_singleton,
      eraseDups_concat]
  accumulated := by
    refine OrderedMap.Each.insert_group (fun _ => pricing.Accumulates) tallies.accumulated
      (Accumulates.snoc ?_ priced)
    cases known : categories.get? (categoryOf item) with
    | some sum => exact tallies.accumulated _ sum known
    | none =>
      -- A category without a sum has no rows so far.
      rw [OrderedMap.get?_eq_none_iff, tallies.keys, List.mem_eraseDups] at known
      rw [filter_key_eq_nil known]
      exact accumulates_nil

/-- Each category adds up the rows that count under it. -/
theorem categoryTotals_tallies {id : String} {categories : OrderedMap String Totals}
    (summed : pricing.categoryTotals items id = .ok categories) :
    pricing.Tallies (rowsOf items id) categories := by
  unfold categoryTotals at summed
  refine foldlM_prefix (p := pricing.Tallies) summed tallies_nil ?_
  intro done item sums next _ tallies stepped
  obtain ⟨part, priced, same⟩ := bind_ok_iff.1 stepped
  cases pure_ok_iff.1 same
  exact tallies.snoc priced

theorem Tallies.counted {categories : OrderedMap String Totals}
    (tallies : pricing.Tallies items categories) :
    (categories.values.map (·.itemCount)).sum = items.length := by
  have counts : categories.values.map (·.itemCount) = categories.keys.map fun name =>
      (items.filter fun item => categoryOf item = name).length := by
    unfold OrderedMap.values OrderedMap.keys
    rw [List.map_map, List.map_map]
    refine List.map_congr_left fun entry listed => ?_
    exact (tallies.accumulated _ _ (OrderedMap.mem_entries_iff.1 listed)).itemCount
  rw [counts]
  refine sum_length_filter categories.nodup fun item listed => ?_
  show categoryOf item ∈ categories.keys
  rw [tallies.keys, List.mem_eraseDups]
  exact List.mem_map_of_mem listed

theorem categories_total (priced : ∀ item ∈ items, ∃ part, pricing.itemTotals item = .ok part)
    (id : String) : ∃ categories, pricing.categoryTotals items id = .ok categories := by
  unfold categoryTotals
  refine (foldlM_total (p := fun _ => True) trivial fun item listed sums _ => ?_).imp
    fun _ summed => summed.1
  obtain ⟨part, own⟩ := priced item (List.mem_of_mem_filter listed)
  exact ⟨_, bind_ok_iff.2 ⟨part, own, rfl⟩, trivial⟩

/-! ## Packages -/

theorem map_key_distinctKeys (ids : List Value) :
    (distinctKeys ids).map Value.key = (ids.map Value.key).eraseDups := by
  induction ids with
  | nil => rfl
  | cons id rest ih =>
    have others : ((distinctKeys rest).filter fun other => other.key ≠ id.key).map Value.key =
        ((distinctKeys rest).map Value.key).filter fun key => key ≠ id.key := by
      rw [List.filter_map]
      rfl
    rw [distinctKeys, List.map_cons, others, ih, List.map_cons, List.eraseDups_cons,
      eraseDups_filter]
    congr 2
    funext key
    by_cases same : key = id.key <;> simp [same]

theorem map_key_packageIds (items : List LineItem) :
    (packageIds items).map Value.key = ((items.map (·.packageId.key)).filter
      fun key => key ≠ Protection.packageId.key).eraseDups := by
  unfold packageIds
  rw [map_key_distinctKeys, List.filter_map, List.map_map, List.filter_map]
  rfl

/-- The buckets of a grand total, and the sum of them. -/
theorem grandTotals_ok {grand : GrandTotals} (summed : pricing.grandTotals items = .ok grand) :
    grand.packages.map (·.1) = packageIds items ∧
    (∀ bucket ∈ grand.buckets,
      pricing.Accumulates (items.filter fun item => item.packageId.key = bucket.1.key) bucket.2) ∧
    Totals.SumsUp (grand.buckets.map (·.2)) grand.sum := by
  unfold grandTotals at summed
  simp only [bind_ok_iff, pure_ok_iff] at summed
  obtain ⟨packages, each, protection, ofProtection, rfl⟩ := summed
  have pairs : List.Forall₂ (fun id bucket =>
      bucket.1 = id ∧ pricing.packageTotals items bucket.1 = .ok bucket.2)
      (packageIds items) packages := by
    refine (mapM_ok_iff.1 each).imp fun id bucket one => ?_
    obtain ⟨total, ofPackage, same⟩ := bind_ok_iff.1 one
    cases pure_ok_iff.1 same
    exact ⟨rfl, ofPackage⟩
  refine ⟨?_, fun bucket listed => ?_, ?_⟩
  · have ids := map_eq_map_of_pairs (f := id) (pairs.imp fun _ _ one => one.1.symm)
    rw [List.map_id] at ids
    exact ids.symm
  · rcases List.mem_append.1 listed with ofPackage | own
    · obtain ⟨_, _, _, one⟩ := exists_mem_of_pairs pairs ofPackage
      exact sumItems_accumulates one
    · rw [List.mem_singleton.1 own]
      exact sumItems_accumulates ofProtection
  · have all := (Totals.sumsUp_foldl (packages.map (·.2))).snoc protection
    rw [List.foldl_map] at all
    unfold GrandTotals.buckets
    rw [List.map_append]
    exact all

theorem grandTotals_total (priced : ∀ item ∈ items, ∃ part, pricing.itemTotals item = .ok part) :
    ∃ grand, pricing.grandTotals items = .ok grand := by
  have some (keep : LineItem → Bool) : ∃ total, pricing.sumItems (items.filter keep) = .ok total :=
    sumItems_total fun item listed => priced item (List.mem_of_mem_filter listed)
  refine bind_total (mapM_total fun id _ => ?_) fun packages _ => ?_
  · exact bind_total (some _) fun total _ => ⟨(id, total), rfl⟩
  · exact bind_total (some _) fun protection _ => ⟨_, rfl⟩

/-- The keys of the buckets are distinct, and each row has one of them. -/
theorem buckets_keys {grand : GrandTotals}
    (ids : grand.packages.map (·.1) = packageIds items) :
    grand.packages.map (·.1.key) = ((items.map (·.packageId.key)).filter
      fun key => key ≠ Protection.packageId.key).eraseDups ∧
    (grand.buckets.map (·.1.key)).Nodup ∧
    ∀ item ∈ items, item.packageId.key ∈ grand.buckets.map (·.1.key) := by
  have order := (congrArg (List.map Value.key) ids).trans (map_key_packageIds items)
  rw [List.map_map] at order
  have keys : grand.buckets.map (·.1.key) =
      grand.packages.map (·.1.key) ++ [Protection.packageId.key] := by
    simp [GrandTotals.buckets]
  refine ⟨order, ?_, fun item listed => ?_⟩
  · rw [keys]
    refine List.nodup_append.2 ⟨order ▸ nodup_eraseDups _, by simp, ?_⟩
    rintro key ofPackage _ own rfl
    have other := order ▸ ofPackage
    rw [List.mem_eraseDups, List.mem_filter, List.mem_singleton.1 own] at other
    simp at other
  · rw [keys, List.mem_append, List.mem_singleton]
    by_cases own : item.packageId.key = Protection.packageId.key
    · exact .inr own
    · refine .inl (order ▸ List.mem_eraseDups.2 (List.mem_filter.2 ?_))
      exact ⟨List.mem_map_of_mem listed, by simpa using own⟩

/-- Rows have a grand total exactly if each of them has figures, and every row counts once in it. -/
theorem grandTotals_countsOnce (pricing : Pricing) (items : List LineItem) :
    ((∃ grand, pricing.grandTotals items = .ok grand) ↔
      ∀ item ∈ items, ∃ part, pricing.itemTotals item = .ok part) ∧
    ∀ grand, pricing.grandTotals items = .ok grand → pricing.CountsOnce items grand := by
  have all (grand : GrandTotals) (summed : pricing.grandTotals items = .ok grand) :
      ∀ item ∈ items, ∃ part, pricing.itemTotals item = .ok part := by
    obtain ⟨ids, accumulated, _⟩ := grandTotals_ok summed
    intro item listed
    obtain ⟨bucket, inBuckets, own⟩ := List.mem_map.1 ((buckets_keys ids).2.2 item listed)
    exact priced_of_accumulates (accumulated bucket inBuckets) item
      (List.mem_filter.2 ⟨listed, by simp [own]⟩)
  refine ⟨⟨fun ⟨grand, summed⟩ => all grand summed, grandTotals_total⟩, fun grand summed => ?_⟩
  have priced := all grand summed
  obtain ⟨ids, accumulated, sum⟩ := grandTotals_ok summed
  obtain ⟨order, distinct, covered⟩ := buckets_keys ids
  have packagesFirst : (grand.packages.map (·.1.key)).Nodup := order ▸ nodup_eraseDups _
  have counts : grand.buckets.map (·.2.itemCount) = (grand.buckets.map (·.1.key)).map fun key =>
      (items.filter fun item => item.packageId.key = key).length := by
    rw [List.map_map]
    exact List.map_congr_left fun bucket listed => (accumulated bucket listed).itemCount
  exact {
    order
    distinct := packagesFirst
    apart := by
      intro bucket listed
      have key : bucket.1.key ∈ grand.packages.map (·.1.key) := List.mem_map_of_mem listed
      rw [order, List.mem_eraseDups] at key
      simpa using (List.mem_filter.1 key).2
    placed := by
      intro item listed
      obtain ⟨bucket, inBuckets, own⟩ := List.mem_map.1 (covered item listed)
      refine ⟨bucket, ⟨inBuckets, own.symm⟩, fun other ⟨inOthers, same⟩ => ?_⟩
      exact List.inj_on_of_nodup_map distinct inOthers inBuckets (same.symm.trans own.symm)
    accumulated
    sum
    counted := by
      rw [counts]
      exact sum_length_filter distinct covered
    instances := instances_total priced
    categories := by
      intro id
      obtain ⟨categories, tallied⟩ := categories_total priced id
      have tallies := categoryTotals_tallies tallied
      exact ⟨categories, tallied, tallies, tallies.counted⟩ }

end Groups

/-! ## Rows of two packages and a protection device -/

/-- A row of one product that costs ten. -/
def tenEach (instanceId : String) (packageId : Value) (category : Option String)
    (quantity : Number) : LineItem where
  id := lineItemId instanceId "P"
  instanceId
  packageId
  packageName := "Package"
  productId := "P"
  name := "Product"
  unit := "Stk"
  quantity
  unitPrice := 10.0
  category
  group := none
  quality := none
  hoursMultiplier := .float 1.0
  hoursPerUnit := .const 0.5
  hoursTotal := ⟨0.5, 1.0, 2.0⟩
  calculated := 3.0
  ruleIds := []
  isProtection := false
  localPrice := none
  localMarkup := none
  manualHours := .const none

/-- Two instances of one package, one of another, and a protection device among them. -/
def mixedRows : List LineItem := [
  tenEach "2-0" (.int 2) (some "Light") (.int 3),
  tenEach "schutzorgane" (.int (-1)) none (.int 1),
  tenEach "1-0" (.int 1) none (.int 2),
  tenEach "2-1" (.int 2) (some "") (.float 0.5),
  tenEach "2-0" (.int 2) none (.int 4)]

/-- A markup of a quarter. -/
def quarterMarkup : Pricing := ⟨.empty, none, 25.0, ⟨80.0, 60.0, 45.0⟩⟩

theorem mixedRows_buckets : (quarterMarkup.grandTotals mixedRows).toOption.map (fun grand =>
    (grand.buckets.map (·.1.key), grand.buckets.map (·.2), grand.sum)) =
    some ([.whole 2, .whole 1, .whole (-1)],
      [⟨3, 75.0, 93.75, ⟨1.5, 3.0, 6.0⟩, 10.5, 570.0, 663.75⟩,
        ⟨1, 20.0, 25.0, ⟨0.5, 1.0, 2.0⟩, 3.5, 190.0, 215.0⟩,
        ⟨1, 10.0, 12.5, ⟨0.5, 1.0, 2.0⟩, 3.5, 190.0, 202.5⟩],
      ⟨5, 105.0, 131.25, ⟨2.5, 5.0, 10.0⟩, 17.5, 950.0, 1081.25⟩) := by decide +kernel

/-- The five rows count once each, with every figure; three of them in the package that comes first. -/
theorem mixedRows_countOnce : ∃ grand, quarterMarkup.grandTotals mixedRows = .ok grand ∧
    grand.buckets.map (·.2) = [⟨3, 75.0, 93.75, ⟨1.5, 3.0, 6.0⟩, 10.5, 570.0, 663.75⟩,
      ⟨1, 20.0, 25.0, ⟨0.5, 1.0, 2.0⟩, 3.5, 190.0, 215.0⟩,
      ⟨1, 10.0, 12.5, ⟨0.5, 1.0, 2.0⟩, 3.5, 190.0, 202.5⟩] ∧
    grand.sum = ⟨5, 105.0, 131.25, ⟨2.5, 5.0, 10.0⟩, 17.5, 950.0, 1081.25⟩ ∧
    quarterMarkup.CountsOnce mixedRows grand := by
  obtain ⟨grand, summed, facts⟩ := toOption_map_eq_some_iff.1 mixedRows_buckets
  obtain ⟨_, facts⟩ := Prod.mk.inj facts
  obtain ⟨buckets, sum⟩ := Prod.mk.inj facts
  exact ⟨grand, summed, buckets, sum,
    (grandTotals_countsOnce quarterMarkup mixedRows).2 grand summed⟩

end Pricing

end WiringQuote
