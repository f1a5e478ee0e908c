import WiringQuote.Proofs.Session.Unrevised
import WiringQuote.Proofs.Sizing

/-!
# Rows under another swap

A swap is set for one row, and the rows are revised anew. As long as that row is merged with no other,
neither with its product before nor with the one after, it changes in its place, and no other row does.

* `reviseRow_stays`, `revise_stays`: what rows keep when they are revised.
* `alone_withSwap`: when the swapped row is alone afterwards.
* `revise_withSwap_other`: a swap of a row that is not there changes nothing.
* `revise_withSwap`: a swap of a row that is alone changes that row in its place.
-/

namespace WiringQuote

open Decimal Fallible LineItem

/-! ## One row -/

namespace Overlay

variable {overlay : Overlay} {catalog : Catalog} {location : Option String}

theorem reviseRow_stays {item row : LineItem}
    (revised : overlay.reviseRow catalog location item = .ok row) : Stays item row := by
  rw [reviseRow_eq, swapRow_eq] at revised
  obtain ⟨swapped, first, second⟩ := bind_ok_iff.1 revised
  have stays : Stays item swapped := by
    cases found : overlay.standIn? catalog location item with
    | none =>
      rw [found] at first
      cases first
      exact .refl item
    | some product =>
      rw [found] at first
      obtain ⟨_, _, _, standsIn⟩ := standIn?_some found
      unfold isAlternative at standsIn
      rw [Bool.and_eq_true] at standsIn
      obtain ⟨_, _, rfl⟩ := withProduct_ok first
      exact ⟨rfl, rfl, rfl, of_decide_eq_true standsIn.1, rfl⟩
  cases set : overlay.quantities.get? swapped.id with
  | none =>
    rw [set] at second
    cases second
    exact stays
  | some n =>
    rw [set] at second
    obtain ⟨_, rfl⟩ := withQuantity_ok second
    exact { stays with }

/-- The overlay with a row swapped to a product. -/
def withSwap (overlay : Overlay) (id productId : String) : Overlay :=
  { overlay with swaps := overlay.swaps.insert id productId }

section WithSwap

variable {id productId : String} {item : LineItem}

theorem reviseRow_withSwap (other : item.id ≠ id) :
    (overlay.withSwap id productId).reviseRow catalog location item =
      overlay.reviseRow catalog location item := by
  unfold reviseRow swapRow withSwap
  dsimp only
  rw [OrderedMap.get?_insert, if_neg (Ne.symm other)]

theorem shown_withSwap (other : item.id ≠ id) :
    (overlay.withSwap id productId).shown catalog location item =
      overlay.shown catalog location item := by
  unfold shown standIn? withSwap
  dsimp only
  rw [OrderedMap.get?_insert, if_neg (Ne.symm other)]

theorem standIn?_withSwap (own : item.id = id) (named : productId ≠ "") {product : Product}
    (known : catalog.product? productId = some product)
    (standsIn : isAlternative location item product = true) (changed : item.productId ≠ productId) :
    (overlay.withSwap id productId).standIn? catalog location item = some product := by
  unfold standIn? withSwap
  dsimp only
  rw [OrderedMap.get?_insert, if_pos own.symm]
  have set : (some productId).filter (fun id => !id.isEmpty && id != item.productId) =
      some productId := by
    simp [Option.filter_some, named, Ne.symm changed]
  rw [set, Option.bind_some, known, Option.filter_some, if_pos standsIn]

/-- A swap to the product that the row has from the start leaves it as it is. -/
theorem standIn?_withSwap_self (own : item.id = id) (same : item.productId = productId) :
    (overlay.withSwap id productId).standIn? catalog location item = none := by
  unfold standIn? withSwap
  dsimp only
  rw [OrderedMap.get?_insert, if_pos own.symm]
  simp [Option.filter_some, same]

theorem shown_withSwap_own (own : item.id = id) (named : productId ≠ "") {product : Product}
    (known : catalog.product? productId = some product)
    (standsIn : isAlternative location item product = true) :
    (overlay.withSwap id productId).shown catalog location item = (item.instanceId, productId) := by
  unfold shown
  by_cases same : item.productId = productId
  · rw [standIn?_withSwap_self own same, Option.elim_none, same]
  · have isProduct : product.id = productId := by simpa using List.find?_some known
    rw [standIn?_withSwap own named known standsIn same, Option.elim_some, isProduct]

end WithSwap

/-! ## Tables of rows -/

section Tables

/-- One entry is replaced by another, and the others are under keys of neither. -/
def Replaces (old new a b : (String × String) × LineItem) : Prop :=
  a = old ∧ b = new ∨ a.2.id ≠ old.2.id ∧ a.1 ≠ old.1 ∧ a.1 ≠ new.1 ∧ b = a

variable {old new : (String × String) × LineItem} {xs ys : List ((String × String) × LineItem)}
  (pairs : List.Forall₂ (Replaces old new) xs ys) {key : String × String} (apart : key ≠ old.1)
  (free : key ≠ new.1)

include pairs apart free

theorem lookup_of_replaces : OrderedMap.lookup key ys = OrderedMap.lookup key xs := by
  induction pairs with
  | nil => rfl
  | @cons a b xs ys pair _ ih =>
    rcases pair with ⟨rfl, rfl⟩ | ⟨_, _, _, rfl⟩
    · unfold OrderedMap.lookup
      rw [if_neg (Ne.symm apart), if_neg (Ne.symm free), ih]
    · unfold OrderedMap.lookup
      rw [ih]

theorem put_of_replaces {row : LineItem} (other : row.id ≠ old.2.id) :
    List.Forall₂ (Replaces old new) (OrderedMap.put key row xs) (OrderedMap.put key row ys) := by
  have own : Replaces old new (key, row) (key, row) := .inr ⟨other, apart, free, rfl⟩
  induction pairs with
  | nil => exact .cons own .nil
  | @cons a b xs ys pair rest ih =>
    rcases pair with ⟨rfl, rfl⟩ | ⟨otherId, apartKey, freeKey, rfl⟩
    · unfold OrderedMap.put
      rw [if_neg (Ne.symm apart), if_neg (Ne.symm free)]
      exact .cons (.inl ⟨rfl, rfl⟩) ih
    · unfold OrderedMap.put
      split
      · exact .cons (.inr ⟨other, apartKey, freeKey, rfl⟩) rest
      · exact .cons (.inr ⟨otherId, apartKey, freeKey, rfl⟩) ih

end Tables

/-- The row that takes the place of a present one, if there is one, when a row is added. -/
def absorbed (row : LineItem) (present : Option LineItem) : Except Fault LineItem :=
  match present with
  | none => .ok row
  | some existing =>
    if row.id = lineItemId row.instanceId row.productId then row.merge existing
    else existing.merge row

theorem addRow_eq (rows : Rows) (row : LineItem) :
    addRow rows row = (absorbed row (rows.get? row.pair)).map (rows.insert row.pair) := by
  unfold addRow absorbed
  dsimp only
  rw [show (row.instanceId, row.productId) = row.pair from rfl]
  cases rows.get? row.pair with
  | none => rfl
  | some existing =>
    dsimp only
    split
    · cases row.merge existing <;> rfl
    · cases existing.merge row <;> rfl

/-- It stays what the row is, or what the present one is. -/
theorem absorbed_stays {row merged : LineItem} {present : Option LineItem}
    (done : absorbed row present = .ok merged) :
    Stays row merged ∨ ∃ existing, present = some existing ∧ Stays existing merged := by
  have stays : ∀ {target other : LineItem}, target.merge other = .ok merged → Stays target merged := by
    intro target other merges
    obtain ⟨_, _, _, _, _, rfl⟩ := merge_ok merges
    exact ⟨rfl, rfl, rfl, rfl, rfl⟩
  unfold absorbed at done
  split at done
  · cases done
    exact .inl (.refl row)
  · split at done
    · exact .inl (stays done)
    · exact .inr ⟨_, rfl, stays done⟩

/-- A row under another key goes into both tables alike. -/
theorem addRow_of_replaces {old new : (String × String) × LineItem} {rows reswapped next after : Rows}
    (pairs : List.Forall₂ (Replaces old new) rows.entries reswapped.entries) {row : LineItem}
    (apart : row.pair ≠ old.1) (free : row.pair ≠ new.1) (other : row.id ≠ old.2.id)
    (added : addRow rows row = .ok next) (again : addRow reswapped row = .ok after) :
    List.Forall₂ (Replaces old new) next.entries after.entries := by
  have same : reswapped.get? row.pair = rows.get? row.pair := lookup_of_replaces pairs apart free
  rw [addRow_eq] at added again
  rw [same] at again
  obtain ⟨merged, done, rfl⟩ := map_ok_iff.1 added
  obtain ⟨_, doneAgain, rfl⟩ := map_ok_iff.1 again
  cases Except.ok.inj (done.symm.trans doneAgain)
  refine put_of_replaces pairs apart free ?_
  rcases absorbed_stays done with stays | ⟨existing, found, stays⟩
  · exact stays.id ▸ other
  · obtain ⟨_, _, ⟨replaced, _⟩ | ⟨otherId, _⟩⟩ :=
      exists_mem_of_pairs pairs.flip (OrderedMap.mem_entries_iff.2 found)
    · exact absurd (congrArg Prod.fst replaced) apart
    · exact stays.id ▸ otherId

/-! ## All rows -/

/-- Where no row with the id stays, none is there afterwards. -/
theorem revise_absent {id : String} {items rows : List LineItem} (ids : (items.map (·.id)).Nodup)
    (absent : id ∉ (overlay.kept items).map (·.id))
    (revised : overlay.revise catalog location items = .ok rows) : ∀ row ∈ rows, row.id ≠ id := by
  intro row present own
  obtain ⟨item, listed, stayed, keeps⟩ := revise_origin ids revised present
  exact absent (List.mem_map.2 ⟨item, List.mem_filter.2 ⟨listed, by simpa using stayed⟩,
    keeps.id.symm.trans own⟩)

/-- Each revised row stays what the row with its id is. -/
theorem revise_stays {items rows : List LineItem}
    (revised : overlay.revise catalog location items = .ok rows) {row : LineItem}
    (present : row ∈ rows) : ∃ item ∈ overlay.kept items, Stays item row := by
  rw [revise_eq] at revised
  obtain ⟨table, run, rfl⟩ := map_ok_iff.1 revised
  have each : table.Each fun _ row => ∃ item ∈ overlay.kept items, Stays item row := by
    refine foldlM_induction run (OrderedMap.each_empty _) fun item listed before next made step => ?_
    obtain ⟨revisedRow, single, added⟩ := bind_ok_iff.1 step
    have own := reviseRow_stays single
    rw [addRow_eq] at added
    obtain ⟨merged, done, rfl⟩ := map_ok_iff.1 added
    refine made.insert ?_
    rcases absorbed_stays done with stays | ⟨existing, found, stays⟩
    · exact ⟨item, listed, own.trans stays⟩
    · obtain ⟨source, inKept, first⟩ := made _ _ found
      exact ⟨source, inKept, first.trans stays⟩
  exact each.of_mem present

/-- A swap of a row that is not there changes nothing. -/
theorem revise_withSwap_other {id productId : String} {items : List LineItem}
    (absent : id ∉ (overlay.kept items).map (·.id)) :
    (overlay.withSwap id productId).revise catalog location items =
      overlay.revise catalog location items := by
  rw [revise_eq, revise_eq]
  refine congrArg (· >>= _) (foldlM_congr (fun item listed rows => ?_) _)
  rw [reviseRow_withSwap fun own => absent (List.mem_map.2 ⟨item, listed, own⟩)]

section Swap

variable {id productId : String} {items : List LineItem} {item : LineItem}

/-- The rows are made up of the same rows under both overlays, but for one entry. -/
structure Reswaps (overlay : Overlay) (catalog : Catalog) (location : Option String)
    (id productId : String) (old new : (String × String) × LineItem) (done : List LineItem)
    (rows reswapped : Rows) : Prop where
  before : Merged overlay catalog location done rows
  after : Merged (overlay.withSwap id productId) catalog location done reswapped
  entries : List.Forall₂ (Replaces old new) rows.entries reswapped.entries

/-- A row of which no other shows the pair gets an entry of its own. -/
theorem addRow_of_alone {done : List LineItem} {rows next : Rows} {row : LineItem}
    (merged : Merged overlay catalog location done rows)
    (pair : row.pair = overlay.shown catalog location item)
    (apart : ∀ other ∈ done, overlay.shown catalog location other ≠ overlay.shown catalog location item)
    (added : addRow rows row = .ok next) : next.entries = rows.entries ++ [(row.pair, row)] := by
  have absent : row.pair ∉ rows.keys := by
    rw [pair, merged.covers]
    intro present
    obtain ⟨other, listed, same⟩ := List.mem_map.1 present
    exact apart other listed same
  rw [addRow_eq, OrderedMap.get?_eq_none_iff.2 absent] at added
  cases added
  exact OrderedMap.entries_insert absent row

section Step

variable {row reswapped : LineItem} (asMade : AsMade items)
  (revised : overlay.reviseRow catalog location item = .ok row)
  (again : (overlay.withSwap item.id productId).reviseRow catalog location item = .ok reswapped)
  (listed : item ∈ overlay.kept items)
  (apart : ∀ other ∈ overlay.kept items, other.id ≠ item.id →
    overlay.shown catalog location other ≠ overlay.shown catalog location item)
  (apartAfter : ∀ other ∈ overlay.kept items, other.id ≠ item.id →
    (overlay.withSwap item.id productId).shown catalog location other ≠
      (overlay.withSwap item.id productId).shown catalog location item)

include asMade revised again listed apart apartAfter

/-- One more row keeps the tables alike: the swapped row gets its own entry in both, and any other row
goes into both in the same way. -/
theorem Reswaps.step {done : List LineItem} {rows next swapped after : Rows} {other : LineItem}
    (begins : done ++ [other] <+: overlay.kept items)
    (reswaps : Reswaps overlay catalog location item.id productId (row.pair, row)
      (reswapped.pair, reswapped) done rows swapped)
    (step : (do addRow rows (← overlay.reviseRow catalog location other)) = .ok next)
    (stepAgain : (do
      addRow swapped (← (overlay.withSwap item.id productId).reviseRow catalog location other)) =
      .ok after) :
    Reswaps overlay catalog location item.id productId (row.pair, row) (reswapped.pair, reswapped)
      (done ++ [other]) next after := by
  have distinct : ((overlay.kept items).map (·.id)).Nodup := kept_ids_nodup asMade.ids
  have integral := asMade.integral item (List.mem_filter.1 listed).1
  have rowOk := reviseRow_ok integral revised
  have reswappedOk := reviseRow_ok integral again
  have present := mem_of_prefix_kept begins
  have within : ∀ earlier ∈ done, earlier ∈ overlay.kept items := fun earlier inDone =>
    begins.subset (List.mem_append_left _ inDone)
  refine ⟨reswaps.before.step (asMade.native _ present) (asMade.integral _ present) step,
    reswaps.after.step (asMade.native _ present) (asMade.integral _ present) stepAgain, ?_⟩
  obtain ⟨made, revisedOther, added⟩ := bind_ok_iff.1 step
  obtain ⟨madeAgain, revisedAgain, addedAgain⟩ := bind_ok_iff.1 stepAgain
  by_cases own : other.id = item.id
  · obtain rfl : other = item :=
      List.inj_on_of_nodup_map distinct (begins.subset (by simp)) listed own
    cases Except.ok.inj (revised.symm.trans revisedOther)
    cases Except.ok.inj (again.symm.trans revisedAgain)
    have fresh : ∀ earlier ∈ done, earlier.id ≠ other.id := by
      intro earlier inDone same
      have ids := distinct.sublist (begins.sublist.map (·.id))
      rw [List.map_append, List.map_singleton] at ids
      exact (List.nodup_append.1 ids).2.2 _ (List.mem_map_of_mem inDone) _ List.mem_cons_self same
    rw [addRow_of_alone reswaps.before rowOk.pair
        (fun earlier inDone => apart _ (within _ inDone) (fresh _ inDone)) added,
      addRow_of_alone reswaps.after reswappedOk.pair
        (fun earlier inDone => apartAfter _ (within _ inDone) (fresh _ inDone)) addedAgain]
    exact List.rel_append reswaps.entries (.cons (.inl ⟨rfl, rfl⟩) .nil)
  · rw [reviseRow_withSwap own] at revisedAgain
    cases Except.ok.inj (revisedOther.symm.trans revisedAgain)
    have madeOk := reviseRow_ok (asMade.integral _ present) revisedOther
    have inKept : other ∈ overlay.kept items := begins.subset (by simp)
    refine addRow_of_replaces reswaps.entries ?_ ?_ ?_ added addedAgain
    · rw [madeOk.pair, rowOk.pair]
      exact apart other inKept own
    · rw [madeOk.pair, reswappedOk.pair, ← shown_withSwap own]
      exact apartAfter other inKept own
    · rw [madeOk.keeps.id, rowOk.keeps.id]
      exact own

end Step

/-- A row that is alone stays so when it is swapped to a product that its package does not show in another
row. -/
theorem alone_withSwap {rows : List LineItem} (asMade : AsMade items)
    (revised : overlay.revise catalog location items = .ok rows) (named : productId ≠ "")
    {product : Product} (known : catalog.product? productId = some product)
    (listed : item ∈ overlay.kept items) (standsIn : isAlternative location item product = true)
    (alone : overlay.Alone catalog location items item.id)
    (free : ∀ row ∈ rows, row.id ≠ item.id → row.pair ≠ (item.instanceId, productId)) :
    (overlay.withSwap item.id productId).Alone catalog location items item.id := by
  obtain ⟨same, listedSame, sameId, apart⟩ := alone
  obtain rfl : same = item :=
    List.inj_on_of_nodup_map (kept_ids_nodup asMade.ids) listedSame listed sameId
  obtain ⟨table, rfl, merged⟩ := revise_merged asMade.native asMade.integral revised
  refine ⟨same, listed, rfl, fun other stays differs shows => ?_⟩
  rw [shown_withSwap differs, shown_withSwap_own rfl named known standsIn] at shows
  -- A row with the new pair is there already, and the swapped row did not go into it.
  have covered : (same.instanceId, productId) ∈ table.keys :=
    (merged.covers _).2 (List.mem_map.2 ⟨other, stays, shows⟩)
  obtain ⟨row, found⟩ := OrderedMap.mem_keys_iff.1 covered
  have pair : row.pair = (same.instanceId, productId) := merged.keyed _ _ found
  refine free row (OrderedMap.mem_values_iff.2 ⟨_, found⟩) (fun own => ?_) pair
  obtain ⟨bearer, borne, bearerId⟩ := Option.map_eq_some_iff.1 (merged.unites _ _ found).bears
  obtain ⟨inKept, bearerShows⟩ := List.mem_filter.1 (mem_of_bearer borne)
  obtain rfl : bearer = same :=
    List.inj_on_of_nodup_map (kept_ids_nodup asMade.ids) inKept listed (bearerId.trans own)
  exact apart other stays differs (shows.trans (of_decide_eq_true bearerShows).symm)

/-- A row that is made as `item` and revised as `row` is replaced by `reswapped`, in its place. -/
structure Swaps (overlay : Overlay) (catalog : Catalog) (location : Option String)
    (id productId : String) (items rows next : List LineItem) (item row reswapped : LineItem) :
    Prop where
  listed : item ∈ items
  own : item.id = id
  revised : (overlay.withSwap id productId).reviseRow catalog location item = .ok reswapped
  made : Stays item row
  stays : Stays row reswapped
  quantity : reswapped.quantity = row.quantity
  present : row ∈ rows
  replaced : next = Enclosure.replace reswapped rows

/-- A swap of a row that is alone before and after changes that row in its place. -/
theorem revise_withSwap {rows next : List LineItem} (asMade : AsMade items)
    (before : overlay.Alone catalog location items id)
    (after : (overlay.withSwap id productId).Alone catalog location items id)
    (revised : overlay.revise catalog location items = .ok rows)
    (again : (overlay.withSwap id productId).revise catalog location items = .ok next) :
    ∃ item row reswapped,
      Swaps overlay catalog location id productId items rows next item row reswapped := by
  obtain ⟨item, listed, rfl, apart⟩ := before
  obtain ⟨same, listedAfter, sameId, apartAfter⟩ := after
  obtain rfl : same = item :=
    List.inj_on_of_nodup_map (kept_ids_nodup asMade.ids) listedAfter listed sameId
  rw [revise_eq] at revised again
  obtain ⟨table, run, rfl⟩ := map_ok_iff.1 revised
  obtain ⟨tableAgain, runAgain, rfl⟩ := map_ok_iff.1 again
  obtain ⟨_, _, step⟩ := foldlM_step_ok run listed
  obtain ⟨row, revisedRow, _⟩ := bind_ok_iff.1 step
  obtain ⟨_, _, stepAgain⟩ := foldlM_step_ok runAgain listed
  obtain ⟨reswapped, reswappedRow, _⟩ := bind_ok_iff.1 stepAgain
  have reswaps := foldlM_related run runAgain
    (p := Reswaps overlay catalog location same.id productId (row.pair, row) (reswapped.pair, reswapped))
    ⟨merged_empty, merged_empty, .nil⟩ fun done other _ _ _ _ begins reswaps step stepAgain =>
      reswaps.step asMade revisedRow reswappedRow listed apart apartAfter begins step stepAgain
  have inItems := (List.mem_filter.1 listed).1
  have rowOk := reviseRow_ok (asMade.integral same inItems) revisedRow
  have reswappedOk := reviseRow_ok (asMade.integral same inItems) reswappedRow
  have made := reviseRow_stays revisedRow
  have stays := made.of_both (reviseRow_stays reswappedRow)
  refine ⟨same, row, reswapped, {
    listed := inItems
    own := rfl
    revised := reswappedRow
    made
    stays
    quantity := reswappedOk.quantity.trans rowOk.quantity.symm
    present := ?_
    replaced := ?_ }⟩
  · have covered : row.pair ∈ table.keys := by
      rw [rowOk.pair]
      exact (reswaps.before.covers _).2 (List.mem_map_of_mem listed)
    obtain ⟨stored, found⟩ := OrderedMap.mem_keys_iff.1 covered
    obtain ⟨_, _, ⟨replaced, _⟩ | ⟨_, otherKey, _⟩⟩ :=
      exists_mem_of_pairs reswaps.entries.flip (OrderedMap.mem_entries_iff.2 found)
    · obtain ⟨_, rfl⟩ := Prod.mk.inj replaced
      exact OrderedMap.mem_values_iff.2 ⟨_, found⟩
    · exact absurd rfl otherKey
  · unfold OrderedMap.values Enclosure.replace
    rw [List.map_map]
    refine (map_eq_map_of_pairs (reswaps.entries.imp fun a b pair => ?_)).symm
    rcases pair with ⟨rfl, rfl⟩ | ⟨other, _, _, rfl⟩
    · exact if_pos stays.id.symm
    · exact if_neg (stays.id ▸ other)

end Swap

end Overlay

end WiringQuote
