import WiringQuote.Proofs.Grouping
import WiringQuote.Proofs.LineItem.Ids
import WiringQuote.Proofs.Session.Revision
import WiringQuote.Session.Override

/-!
# Revising loses no units

Rows that are swapped to one product of a selected package are merged one after the other, so that a row
may be put together from many. What it then holds is told from the rows that went into it, its
contributors, and not from the steps in which they did.

* `Merged.step`: one more row goes into the rows so far.
* `revise_merged`: each revised row unites those that show its pair of selected package and product.
* `exists_revise_iff`: there are revised rows exactly if every step computes with numbers in range.
* `revise_conserves`: these together, with the rules and the units of all rows.
-/

namespace WiringQuote

open Decimal Fallible

/-- The amount that a whole number stands for. -/
def Number.amount : Number → Int
  | .int n => n
  | .float _ => 0

namespace LineItem

def amount (item : LineItem) : Int := item.quantity.amount

/-- The row is named after its selected package and the product that it has from the start. -/
def Native (item : LineItem) : Prop := item.id = lineItemId item.instanceId item.productId

/-- The quantity is a whole number. -/
def Integral (item : LineItem) : Prop := item.quantity = .int item.amount

theorem amount_of_quantity {item : LineItem} {n : Int} (quantity : item.quantity = .int n) :
    item.amount = n := by
  unfold amount
  rw [quantity]
  rfl

theorem integral_of_quantity {item : LineItem} {n : Int} (quantity : item.quantity = .int n) :
    item.Integral := by
  unfold Integral
  rw [amount_of_quantity quantity, quantity]

/-- The row of which a merged row keeps the id: the one whose product it is from the start if there is
one, else the first. -/
def bearer (product : String) (contributors : List LineItem) : Option LineItem :=
  (contributors.find? fun item => item.productId = product).or contributors.head?

section Bearer

variable {product : String} {contributors : List LineItem} {item : LineItem}

theorem bearer_singleton : bearer product [item] = some item := by
  unfold bearer
  by_cases own : item.productId = product <;> simp [own]

/-- It is one of those that went into it. -/
theorem mem_of_bearer (borne : bearer product contributors = some item) : item ∈ contributors := by
  unfold bearer at borne
  rcases Option.or_eq_some_iff.1 borne with found | ⟨_, first⟩
  · exact List.mem_of_find?_eq_some found
  · exact List.mem_of_head? first

/-- A row of another product does not take over the id. -/
theorem bearer_concat_of_ne (some : contributors ≠ []) (other : item.productId ≠ product) :
    bearer product (contributors ++ [item]) = bearer product contributors := by
  obtain ⟨first, rest, rfl⟩ := List.exists_cons_of_ne_nil some
  unfold bearer
  rw [List.find?_append]
  simp [other]

/-- The row of the product takes over the id. -/
theorem bearer_concat_of_eq (own : item.productId = product)
    (same : ∀ other ∈ contributors, other.productId = product → other.id = item.id) :
    (bearer product (contributors ++ [item])).map (·.id) = some item.id := by
  unfold bearer
  rw [List.find?_append]
  cases found : contributors.find? fun other => other.productId = product with
  | none => simp [own]
  | some other =>
    have listed := List.mem_of_find?_eq_some found
    have native : other.productId = product := by simpa using List.find?_some found
    exact congrArg some (same other listed native)

end Bearer

end LineItem

namespace Overlay

open LineItem

variable {overlay : Overlay} {catalog : Catalog} {location : Option String}

/-! ## What a row comes to -/

/-- The selected package of the row and the product that it then has. -/
def shown (overlay : Overlay) (catalog : Catalog) (location : Option String)
    (item : LineItem) : String × String :=
  (item.instanceId, (overlay.standIn? catalog location item).elim item.productId (·.id))

/-- The set quantity of the row if there is one, else its own. -/
def counted (overlay : Overlay) (item : LineItem) : Int :=
  (overlay.quantities.get? item.id).getD item.amount

/-- The units of the rows that show a pair. -/
def countedAt (overlay : Overlay) (catalog : Catalog) (location : Option String)
    (items : List LineItem) (key : String × String) : Int :=
  ((items.filter fun item => overlay.shown catalog location item = key).map overlay.counted).sum

theorem countedAt_concat (done : List LineItem) (item : LineItem) :
    overlay.countedAt catalog location (done ++ [item]) (overlay.shown catalog location item) =
      overlay.countedAt catalog location done (overlay.shown catalog location item) +
        overlay.counted item := by
  simp [countedAt]

/-- The numbers that the step for one more row computes with are in range of binary64: those of a swapped
row, a set quantity, and the units of the rows that are merged. -/
structure Convertible (overlay : Overlay) (catalog : Catalog) (location : Option String)
    (done : List LineItem) (item : LineItem) : Prop where
  swapped : (overlay.standIn? catalog location item).isSome = true →
    (∃ x, item.hoursMultiplier.toFloat = .ok x) ∧ ∃ x, item.quantity.toFloat = .ok x
  set : ∀ n, overlay.quantities.get? item.id = some n → ∃ x, ofInt n = .ok x
  merged : overlay.shown catalog location item ∈ done.map (overlay.shown catalog location) →
    ∃ x, ofInt (overlay.countedAt catalog location (done ++ [item])
      (overlay.shown catalog location item)) = .ok x

/-- The rows that are not removed. -/
def kept (overlay : Overlay) (items : List LineItem) : List LineItem :=
  items.filter fun item => !overlay.removed.contains item.id

theorem reviseRow_eq (item : LineItem) : overlay.reviseRow catalog location item = (do
    let swapped ← overlay.swapRow catalog location item
    (overlay.quantities.get? swapped.id).elim (.ok swapped) fun n => swapped.withQuantity (.int n)) := by
  unfold reviseRow
  refine bind_congr fun swapped => ?_
  split
  · rename_i n set
    rw [set]
    rfl
  · rename_i none
    rw [none]
    rfl

/-- The row with its swap and its set quantity. -/
structure Revises (overlay : Overlay) (catalog : Catalog) (location : Option String)
    (item row : LineItem) : Prop where
  keeps : Keeps item row
  pair : row.pair = overlay.shown catalog location item
  ruleIds : row.ruleIds = item.ruleIds
  quantity : row.quantity = .int (overlay.counted item)

theorem swapRow_ok {item row : LineItem}
    (swapped : overlay.swapRow catalog location item = .ok row) :
    Keeps item row ∧ row.pair = overlay.shown catalog location item ∧ row.ruleIds = item.ruleIds ∧
      row.quantity = item.quantity := by
  rw [swapRow_eq] at swapped
  unfold shown
  cases other : overlay.standIn? catalog location item with
  | none =>
    rw [other] at swapped
    cases swapped
    exact ⟨.refl _, rfl, rfl, rfl⟩
  | some product =>
    rw [other] at swapped
    obtain ⟨_, _, rfl⟩ := withProduct_ok swapped
    exact ⟨⟨rfl, rfl⟩, rfl, rfl, rfl⟩

theorem reviseRow_ok {item row : LineItem} (integral : item.Integral)
    (revised : overlay.reviseRow catalog location item = .ok row) :
    overlay.Revises catalog location item row := by
  rw [reviseRow_eq] at revised
  obtain ⟨swapped, first, second⟩ := bind_ok_iff.1 revised
  obtain ⟨keeps, pair, ruleIds, quantity⟩ := swapRow_ok first
  rw [keeps.id] at second
  have own : overlay.counted item = (overlay.quantities.get? item.id).getD item.amount := rfl
  cases set : overlay.quantities.get? item.id with
  | none =>
    rw [set] at second own
    cases second
    exact ⟨keeps, pair, ruleIds, quantity.trans (own ▸ integral)⟩
  | some n =>
    rw [set] at second own
    obtain ⟨_, rfl⟩ := withQuantity_ok second
    exact ⟨⟨keeps.id, keeps.instanceId⟩, pair, ruleIds, own ▸ rfl⟩

/-- A row can be revised exactly if the numbers that it is computed from are in range: the ones of the
row itself if it is swapped, and the set quantity if there is one. -/
theorem exists_reviseRow_iff {item : LineItem} :
    (∃ row, overlay.reviseRow catalog location item = .ok row) ↔
      ((overlay.standIn? catalog location item).isSome = true →
        (∃ x, item.hoursMultiplier.toFloat = .ok x) ∧ ∃ x, item.quantity.toFloat = .ok x) ∧
      ∀ n, overlay.quantities.get? item.id = some n → ∃ x, ofInt n = .ok x := by
  have swaps : (∃ swapped, overlay.swapRow catalog location item = .ok swapped) ↔
      ((overlay.standIn? catalog location item).isSome = true →
        (∃ x, item.hoursMultiplier.toFloat = .ok x) ∧ ∃ x, item.quantity.toFloat = .ok x) := by
    rw [swapRow_eq]
    cases overlay.standIn? catalog location item with
    | none => simp
    | some product => simpa using exists_withProduct_iff
  have sets : ∀ swapped : LineItem, (∃ row, (overlay.quantities.get? item.id).elim (.ok swapped)
      (fun n => swapped.withQuantity (.int n)) = .ok row) ↔
        ∀ n, overlay.quantities.get? item.id = some n → ∃ x, ofInt n = .ok x := by
    intro swapped
    cases overlay.quantities.get? item.id with
    | none => simp
    | some n =>
      have sets : (∃ row, swapped.withQuantity (.int n) = .ok row) ↔ ∃ x, ofInt n = .ok x :=
        exists_withQuantity_iff
      simpa using sets
  rw [reviseRow_eq, ← swaps]
  constructor
  · rintro ⟨row, revised⟩
    obtain ⟨swapped, first, second⟩ := bind_ok_iff.1 revised
    rw [(swapRow_keeps first).id] at second
    exact ⟨⟨swapped, first⟩, (sets swapped).1 ⟨row, second⟩⟩
  · rintro ⟨⟨swapped, first⟩, inRange⟩
    obtain ⟨row, second⟩ := (sets swapped).2 inRange
    exact ⟨row, bind_ok_iff.2 ⟨swapped, first, by rwa [(swapRow_keeps first).id]⟩⟩

/-! ## What a merged row holds -/

/-- A row holds its contributors: it has the id of one of them, the rules of all and their quantities
together. -/
structure Unites (overlay : Overlay) (key : String × String) (contributors : List LineItem)
    (row : LineItem) : Prop where
  bears : (bearer key.2 contributors).map (·.id) = some row.id
  ruleIds : row.ruleIds.Perm (contributors.flatMap (·.ruleIds))
  quantity : row.quantity = .int (contributors.map overlay.counted).sum

/-- The rows that are `done` make up these rows, one for each pair that they show. -/
structure Merged (overlay : Overlay) (catalog : Catalog) (location : Option String)
    (done : List LineItem) (rows : Rows) : Prop where
  keyed : rows.KeyedBy pair
  covers : ∀ key, key ∈ rows.keys ↔ key ∈ done.map (overlay.shown catalog location)
  unites : rows.Each fun key row =>
    overlay.Unites key (done.filter fun item => overlay.shown catalog location item = key) row
  native : ∀ item ∈ done, item.Native

theorem merged_empty : Merged overlay catalog location [] .empty where
  keyed := OrderedMap.keyedBy_empty _
  covers _ := Iff.rfl
  unites := OrderedMap.each_empty _
  native := fun _ listed => by cases listed

/-- A revised row is the row of its product exactly if it has that product from the start. -/
theorem Revises.id_eq_iff {item row : LineItem} (revises : overlay.Revises catalog location item row)
    (native : item.Native) :
    row.id = lineItemId row.instanceId row.productId ↔ item.productId = row.productId := by
  rw [revises.keeps.id, revises.keeps.instanceId, native, lineItemId_right_inj]

section Step

variable {done contributors : List LineItem} {rows next : Rows} {key : String × String}
  {item row existing total : LineItem}

theorem Unites.single (revises : overlay.Revises catalog location item row) :
    overlay.Unites key [item] row where
  bears := by rw [bearer_singleton, Option.map_some, revises.keeps.id]
  ruleIds := by simp [revises.ruleIds]
  quantity := by simp [revises.quantity]

/-- A merged row that takes in one more of another product keeps its id. -/
theorem Unites.absorbs (unites : overlay.Unites key contributors existing)
    (revises : overlay.Revises catalog location item row) (other : item.productId ≠ key.2)
    (absorbed : existing.merge row = .ok total) :
    overlay.Unites key (contributors ++ [item]) total := by
  obtain ⟨keeps, _⟩ := merge_keeps absorbed
  obtain ⟨ruleIds, added⟩ := merge_adds absorbed
  have some : contributors ≠ [] := by
    rintro rfl
    cases unites.bears
  refine ⟨?_, ?_, ?_⟩
  · rw [bearer_concat_of_ne some other, keeps.id]
    exact unites.bears
  · rw [ruleIds, revises.ruleIds, List.flatMap_append, List.flatMap_singleton]
    exact unites.ruleIds.append_right _
  · rw [unites.quantity, revises.quantity] at added
    rw [List.map_append, List.sum_append, List.map_singleton, List.sum_singleton]
    exact (Except.ok.inj added).symm

/-- The row of the product takes in the merged one, and brings its own id. -/
theorem Unites.absorbed (unites : overlay.Unites key contributors existing)
    (revises : overlay.Revises catalog location item row) (own : item.productId = key.2)
    (same : ∀ other ∈ contributors, other.productId = key.2 → other.id = item.id)
    (absorbed : row.merge existing = .ok total) :
    overlay.Unites key (contributors ++ [item]) total := by
  obtain ⟨keeps, _⟩ := merge_keeps absorbed
  obtain ⟨ruleIds, added⟩ := merge_adds absorbed
  refine ⟨?_, ?_, ?_⟩
  · rw [bearer_concat_of_eq own same, keeps.id, revises.keeps.id]
  · rw [ruleIds, revises.ruleIds, List.flatMap_append, List.flatMap_singleton]
    exact (unites.ruleIds.append_left _).trans List.perm_append_comm
  · rw [unites.quantity, revises.quantity] at added
    rw [List.map_append, List.sum_append, List.map_singleton, List.sum_singleton, Int.add_comm]
    exact (Except.ok.inj added).symm

/-- The row of one more is put in its place. -/
theorem Merged.insert (merged : Merged overlay catalog location done rows) (native : item.Native)
    (placed : row.pair = overlay.shown catalog location item)
    (unites : overlay.Unites (overlay.shown catalog location item)
      ((done.filter fun other => overlay.shown catalog location other =
        overlay.shown catalog location item) ++ [item]) row) :
    Merged overlay catalog location (done ++ [item])
      (rows.insert (overlay.shown catalog location item) row) where
  keyed := merged.keyed.insert placed
  covers key := by
    rw [OrderedMap.mem_keys_insert_iff, merged.covers, List.map_append, List.mem_append,
      List.map_singleton, List.mem_singleton]
  unites := merged.unites.insert_group (fun key => overlay.Unites key) unites
  native := List.forall_mem_append.2 ⟨merged.native, List.forall_mem_singleton.2 native⟩

theorem Merged.addRow (merged : Merged overlay catalog location done rows) (native : item.Native)
    (revises : overlay.Revises catalog location item row)
    (added : Overlay.addRow rows row = .ok next) :
    Merged overlay catalog location (done ++ [item]) next := by
  have pair : (row.instanceId, row.productId) = overlay.shown catalog location item := revises.pair
  have product : row.productId = (overlay.shown catalog location item).2 := congrArg Prod.snd pair
  unfold Overlay.addRow at added
  dsimp only at added
  rw [pair] at added
  cases found : rows.get? (overlay.shown catalog location item) with
  | none =>
    rw [found] at added
    cases added
    have absent : overlay.shown catalog location item ∉
        done.map (overlay.shown catalog location) := by
      rw [← merged.covers]
      exact OrderedMap.get?_eq_none_iff.1 found
    refine merged.insert native revises.pair ?_
    rw [Grouping.filter_key_eq_nil absent]
    exact .single revises
  | some existing =>
    have unites := merged.unites _ _ found
    have placed : existing.pair = overlay.shown catalog location item := merged.keyed _ _ found
    rw [found] at added
    dsimp only at added
    split at added
    · -- The row has the product from the start; any other that does has the same id.
      rename_i named
      obtain ⟨total, absorbed, same⟩ := bind_ok_iff.1 added
      cases same
      have own := product ▸ (revises.id_eq_iff native).1 named
      obtain ⟨keeps, kept⟩ := merge_keeps absorbed
      refine merged.insert native ((Prod.ext keeps.instanceId kept).trans revises.pair)
        (unites.absorbed revises own (fun other listed sameProduct => ?_) absorbed)
      obtain ⟨before, shows⟩ := List.mem_filter.1 listed
      have sameInstance : other.instanceId = item.instanceId :=
        congrArg Prod.fst (of_decide_eq_true shows)
      rw [merged.native other before, native, sameInstance, sameProduct, own]
    · rename_i unnamed
      obtain ⟨total, absorbed, same⟩ := bind_ok_iff.1 added
      cases same
      have other : item.productId ≠ (overlay.shown catalog location item).2 := fun own =>
        unnamed ((revises.id_eq_iff native).2 (own.trans product.symm))
      obtain ⟨keeps, kept⟩ := merge_keeps absorbed
      exact merged.insert native ((Prod.ext keeps.instanceId kept).trans placed)
        (unites.absorbs revises other absorbed)

theorem exists_merge_iff_of_quantity {target other : LineItem} {m n : Int}
    (first : target.quantity = .int m) (second : other.quantity = .int n) :
    (∃ row, target.merge other = .ok row) ↔ ∃ x, ofInt (m + n) = .ok x := by
  have added : target.quantity.add other.quantity = .ok (.int (m + n)) := by
    rw [first, second]
    rfl
  rw [exists_merge_iff, added]
  simp [Number.toFloat]

/-- A revised row can be added exactly if the units of the rows that it is merged with are in range. -/
theorem Merged.exists_addRow_iff (merged : Merged overlay catalog location done rows)
    (revises : overlay.Revises catalog location item row) :
    (∃ next, Overlay.addRow rows row = .ok next) ↔
      (overlay.shown catalog location item ∈ done.map (overlay.shown catalog location) →
        ∃ x, ofInt (overlay.countedAt catalog location (done ++ [item])
          (overlay.shown catalog location item)) = .ok x) := by
  have pair : (row.instanceId, row.productId) = overlay.shown catalog location item := revises.pair
  unfold Overlay.addRow
  dsimp only
  rw [pair, ← merged.covers, OrderedMap.mem_keys_iff]
  cases found : rows.get? (overlay.shown catalog location item) with
  | none => simp
  | some existing =>
    have quantity : existing.quantity = .int (overlay.countedAt catalog location done
        (overlay.shown catalog location item)) := (merged.unites _ _ found).quantity
    rw [countedAt_concat]
    simp only [Option.some.injEq, exists_eq', forall_const]
    split
    · rw [Int.add_comm, ← exists_merge_iff_of_quantity revises.quantity quantity]
      exact exists_bind_pure_iff
    · rw [← exists_merge_iff_of_quantity quantity revises.quantity]
      exact exists_bind_pure_iff

end Step

/-! ## All rows -/

section Run

variable {items rows : List LineItem}

theorem revise_eq (items : List LineItem) : overlay.revise catalog location items = (do
    let table ← (overlay.kept items).foldlM (fun rows item => do
      Overlay.addRow rows (← overlay.reviseRow catalog location item)) .empty
    return table.values) := rfl

theorem Merged.step {done : List LineItem} {rows next : Rows} {item : LineItem}
    (merged : Merged overlay catalog location done rows) (native : item.Native)
    (integral : item.Integral)
    (step : (do Overlay.addRow rows (← overlay.reviseRow catalog location item)) = .ok next) :
    Merged overlay catalog location (done ++ [item]) next := by
  obtain ⟨row, revised, added⟩ := bind_ok_iff.1 step
  exact merged.addRow native (reviseRow_ok integral revised) added

theorem Merged.exists_step_iff {done : List LineItem} {rows : Rows} {item : LineItem}
    (merged : Merged overlay catalog location done rows) (integral : item.Integral) :
    (∃ next, (do Overlay.addRow rows (← overlay.reviseRow catalog location item)) = .ok next) ↔
      overlay.Convertible catalog location done item := by
  constructor
  · rintro ⟨next, step⟩
    obtain ⟨row, revised, added⟩ := bind_ok_iff.1 step
    obtain ⟨swapped, set⟩ := exists_reviseRow_iff.1 ⟨row, revised⟩
    exact ⟨swapped, set, (merged.exists_addRow_iff (reviseRow_ok integral revised)).1 ⟨next, added⟩⟩
  · rintro ⟨swapped, set, inRange⟩
    obtain ⟨row, revised⟩ := exists_reviseRow_iff.2 ⟨swapped, set⟩
    obtain ⟨next, added⟩ := (merged.exists_addRow_iff (reviseRow_ok integral revised)).2 inRange
    exact ⟨next, bind_ok_iff.2 ⟨row, revised, added⟩⟩

theorem mem_of_prefix_kept {done : List LineItem} {item : LineItem}
    (begins : done ++ [item] <+: overlay.kept items) : item ∈ items :=
  (List.mem_filter.1 (begins.subset (by simp))).1

/-- Each revised row unites the rows that show its pair. -/
theorem revise_merged (native : ∀ item ∈ items, item.Native) (integral : ∀ item ∈ items, item.Integral)
    (revised : overlay.revise catalog location items = .ok rows) :
    ∃ table : Rows, rows = table.values ∧
      Merged overlay catalog location (overlay.kept items) table := by
  rw [revise_eq] at revised
  obtain ⟨table, run, same⟩ := bind_ok_iff.1 revised
  cases same
  refine ⟨table, rfl, foldlM_prefix run merged_empty fun done item rows next begins merged step => ?_⟩
  have listed := mem_of_prefix_kept begins
  exact merged.step (native item listed) (integral item listed) step

/-- There are revised rows exactly if every step computes with numbers in range. -/
theorem exists_revise_iff (native : ∀ item ∈ items, item.Native)
    (integral : ∀ item ∈ items, item.Integral) :
    (∃ rows, overlay.revise catalog location items = .ok rows) ↔
      ∀ done item, done ++ [item] <+: overlay.kept items →
        overlay.Convertible catalog location done item := by
  rw [revise_eq, exists_bind_pure_iff]
  refine foldlM_ok_iff (p := Merged overlay catalog location) merged_empty
    (fun done item rows next begins merged step => ?_) fun done item rows begins merged => ?_
  · have listed := mem_of_prefix_kept begins
    exact merged.step (native item listed) (integral item listed) step
  · exact merged.exists_step_iff (integral item (mem_of_prefix_kept begins))

end Run

/-! ## Totals -/

section Totals

variable {done : List LineItem} {table : Rows}
  (merged : Merged overlay catalog location done table)

include merged

theorem Merged.unites_own {row : LineItem} (present : row ∈ table.values) :
    overlay.Unites row.pair
      (done.filter fun item => overlay.shown catalog location item = row.pair) row :=
  merged.unites _ _ (merged.keyed.get?_of_mem present)

/-- The contributors of all rows, row by row, are the rows before. -/
theorem Merged.contributors_perm : (table.values.flatMap fun row =>
    done.filter fun item => overlay.shown catalog location item = row.pair).Perm done :=
  Grouping.flatMap_values_perm merged.keyed merged.covers

theorem Merged.ruleIds_perm :
    (table.values.flatMap (·.ruleIds)).Perm (done.flatMap (·.ruleIds)) := by
  have each := List.Perm.flatMap_left table.values fun row present =>
    (merged.unites_own present).ruleIds
  rw [← List.flatMap_assoc] at each
  exact each.trans (merged.contributors_perm.flatMap_right _)

theorem Merged.sum_amount : (table.values.map amount).sum = (done.map overlay.counted).sum := calc
  (table.values.map amount).sum
  _ = (table.values.map fun row => ((done.filter fun item =>
      overlay.shown catalog location item = row.pair).map overlay.counted).sum).sum :=
    congrArg List.sum (List.map_congr_left fun row present =>
      amount_of_quantity (merged.unites_own present).quantity)
  _ = ((table.values.flatMap fun row => done.filter fun item =>
      overlay.shown catalog location item = row.pair).map overlay.counted).sum := by
    rw [List.map_flatMap, List.flatMap_def, List.sum_flatten, List.map_map]
    rfl
  _ = (done.map overlay.counted).sum := (merged.contributors_perm.map _).sum_eq

end Totals

/-! ## Together -/

/-- Rows with distinct ids of their own packages and products, and with whole quantities, can be revised
exactly if every step computes with numbers in range. The revised rows have distinct pairs and distinct
ids from the rows that are not removed. Together they have the rules of those rows, each once, and their
units, set ones in place of others; and each of them unites the rows that show its pair. -/
theorem revise_conserves {items : List LineItem} (distinct : (items.map (·.id)).Nodup)
    (native : ∀ item ∈ items, item.Native) (integral : ∀ item ∈ items, item.Integral) :
    ((∃ rows, overlay.revise catalog location items = .ok rows) ↔
      ∀ done item, done ++ [item] <+: overlay.kept items →
        overlay.Convertible catalog location done item) ∧
    ∀ rows, overlay.revise catalog location items = .ok rows →
      (rows.map pair).Nodup ∧ (rows.map (·.id)).Nodup ∧
      (∀ row ∈ rows, row.id ∈ (overlay.kept items).map (·.id)) ∧
      (rows.flatMap (·.ruleIds)).Perm ((overlay.kept items).flatMap (·.ruleIds)) ∧
      (∀ row ∈ rows, row.Integral) ∧
      (rows.map amount).sum = ((overlay.kept items).map overlay.counted).sum ∧
      ∀ row ∈ rows, overlay.Unites row.pair ((overlay.kept items).filter fun item =>
        overlay.shown catalog location item = row.pair) row := by
  refine ⟨exists_revise_iff native integral, fun rows revised => ?_⟩
  obtain ⟨table, rfl, merged⟩ := revise_merged native integral revised
  refine ⟨revise_pairs_nodup distinct revised, revise_ids_nodup distinct revised,
    fun row present => ?_, merged.ruleIds_perm, fun row present => ?_, merged.sum_amount,
    fun row present => merged.unites_own present⟩
  · obtain ⟨item, listed, stays, keeps⟩ := revise_origin distinct revised present
    exact List.mem_map.2 ⟨item, List.mem_filter.2 ⟨listed, by simpa using stays⟩, keeps.id.symm⟩
  · exact integral_of_quantity (merged.unites_own present).quantity

/-- One lamp of these. -/
def lamp (id : String) : Product :=
  ⟨id, "Lamp", "Stk", 20.0, some "lamps", none, .const 0.25, none, [], none⟩

/-- Four lamps that can stand in for each other. -/
def lamps : Catalog where
  packages := .empty
  rules := []
  products := ["a", "b", "c", "d"].map lamp
  groups := .empty
  parameters := .empty
  links := []

/-- The row of a lamp. -/
def lampRow (id : String) (quantity : Int) (rule : Int) : LineItem where
  id := lineItemId "1-00000001" id
  instanceId := "1-00000001"
  packageId := .num (.int 1)
  packageName := "Flat"
  productId := id
  name := "Lamp"
  unit := "Stk"
  quantity := .int quantity
  unitPrice := 20.0
  category := none
  group := some "lamps"
  quality := none
  hoursMultiplier := .float 1.0
  hoursPerUnit := .const 0.25
  hoursTotal := .const 0.25
  calculated := 1.0
  ruleIds := [rule]
  isProtection := false
  localPrice := none
  localMarkup := none
  manualHours := .const none

def lampRows : List LineItem :=
  [lampRow "a" 2 1, lampRow "b" 3 2, lampRow "c" 4 3, lampRow "d" 5 4]

/-- Two rows are swapped to the product of a third, one of them with a set quantity, and one is
removed. -/
def oneLamp : Overlay := { Overlay.empty with
  quantities := .ofList [("1-00000001-c", 7)]
  swaps := .ofList [("1-00000001-a", "b"), ("1-00000001-c", "b")]
  removed := ["1-00000001-d"] }

theorem lampRows_native : ∀ item ∈ lampRows, item.Native := by
  simp [lampRows, Native, lampRow]

theorem lampRows_integral : ∀ item ∈ lampRows, item.Integral := by
  simp [lampRows, Integral, lampRow, amount, Number.amount]

theorem oneLamp_rows : (oneLamp.revise lamps none lampRows).toOption.map (fun rows =>
    (rows.map (·.id), rows.map (·.ruleIds), rows.map (·.quantity))) =
    some (["1-00000001-b"], [[2, 1, 3]], [.int 12]) := by decide +kernel

/-- One row is left of three. -/
theorem oneLamp_united : (lampRows.map (·.id)).Nodup ∧ (∀ item ∈ lampRows, item.Native) ∧
    (∀ item ∈ lampRows, item.Integral) ∧
    ∃ rows, oneLamp.revise lamps none lampRows = .ok rows ∧ rows.map (·.id) = ["1-00000001-b"] ∧
      rows.map (·.quantity) = [.int 12] ∧
      (rows.map amount).sum = ((oneLamp.kept lampRows).map oneLamp.counted).sum ∧
      (rows.flatMap (·.ruleIds)).Perm ((oneLamp.kept lampRows).flatMap (·.ruleIds)) ∧
      ∀ done item, done ++ [item] <+: oneLamp.kept lampRows →
        oneLamp.Convertible lamps none done item := by
  have distinct : (lampRows.map (·.id)).Nodup := by decide +kernel
  obtain ⟨rows, revised, facts⟩ := toOption_map_eq_some_iff.1 oneLamp_rows
  obtain ⟨ids, facts⟩ := Prod.mk.inj facts
  obtain ⟨_, quantities⟩ := Prod.mk.inj facts
  obtain ⟨_, _, _, ruleIds, _, amounts, _⟩ :=
    (revise_conserves distinct lampRows_native lampRows_integral).2 rows revised
  exact ⟨distinct, lampRows_native, lampRows_integral, rows, revised, ids, quantities, amounts,
    ruleIds, (revise_conserves distinct lampRows_native lampRows_integral).1.1 ⟨rows, revised⟩⟩

/-- Two rows of one product, each with the most units that are a power of two in range. -/
def vastLamps : Overlay := { Overlay.empty with
  quantities := .ofList [("1-00000001-a", 2 ^ 1023), ("1-00000001-b", 2 ^ 1023)]
  swaps := .ofList [("1-00000001-a", "b")] }

/-- A quantity that may be set, but not for two rows that are merged. -/
theorem vastLamps_fails : Override.quantity (.num (.int (2 ^ 1023))) = .ok (2 ^ 1023) ∧
    (lampRows.map (·.id)).Nodup ∧ (∀ item ∈ lampRows, item.Native) ∧
    (∀ item ∈ lampRows, item.Integral) ∧
    vastLamps.revise lamps none lampRows = .error .beyondRange := by
  have accepted : (Override.quantity (.num (.int (2 ^ 1023)))).toOption = some (2 ^ 1023) := by
    decide +kernel
  have fails : (vastLamps.revise lamps none lampRows).map (fun _ => ()) = .error .beyondRange := by
    decide +kernel
  exact ⟨toOption_eq_some_iff.1 accepted, by decide +kernel, lampRows_native, lampRows_integral,
    map_error_iff.1 fails⟩

end Overlay

end WiringQuote
