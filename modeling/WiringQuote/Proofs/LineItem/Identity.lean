import WiringQuote.Proofs.Grouping
import WiringQuote.Proofs.LineItem.Ids
import WiringQuote.Proofs.LineItem.Units

/-!
# What a row is the row of

Rules that select one product for one selected package are to share a row. Rows are put together by
their ids, though, and an id joins the ids of a package and of a product by a dash, so that two pairs of
them may have one id.

* `build_tallies`: each id has one row, which holds the rules whose package and product have that id and
  belongs to the first of them.
* `build_perPair_iff`: there is one row for each pair exactly if no two of the pairs have one id; this is
  so for ids that are given out.
* `joinedIds_merged`: the rules of two packages end up in one row.
-/

namespace WiringQuote

open Decimal Fallible

namespace LineItem

/-! ## Choices -/

/-- A resolved rule and the product that it makes a row of. -/
structure Choice where
  resolved : ResolvedRule
  product : Product

/-- What the choice asks for: a product for a selected package. -/
def Choice.pair (choice : Choice) : String × String :=
  (choice.resolved.instanceId, choice.product.id)

/-- The id of the row that the choice is put in. -/
def Choice.rowId (choice : Choice) : String :=
  lineItemId choice.resolved.instanceId choice.product.id

/-- The rules with a positive quantity, of a group that is not derived, and with a product. -/
def choices (catalog : Catalog) (preference : Preference) (rules : List ResolvedRule) :
    List Choice :=
  rules.filterMap fun resolved =>
    (selected? catalog preference resolved).map fun product => ⟨resolved, product⟩

/-- The row has the rules of these choices in order, and their rounded quantities together. -/
structure Holds (row : LineItem) (chosen : List Choice) : Prop where
  ruleIds : row.ruleIds = chosen.map (·.resolved.rule.id)
  quantity : ∃ units : List Int,
    chosen.mapM (fun choice => roundQuantity (.float choice.resolved.quantity)) = .ok units ∧
      row.quantity = .int units.sum

/-- There is one row for each key of a choice, and it holds the choices with that key and no others. -/
structure OnePer {κ : Type} [DecidableEq κ] (asked : Choice → κ) (key : LineItem → κ)
    (rows : List LineItem) (chosen : List Choice) : Prop where
  distinct : (rows.map key).Nodup
  covers : ∀ k, k ∈ rows.map key ↔ k ∈ chosen.map asked
  holds : ∀ row ∈ rows, row.Holds (chosen.filter fun choice => asked choice = key row)

/-! ## Rows of choices -/

theorem ofRule_holds {package : Option Package} {choice : Choice} {row : LineItem}
    (made : ofRule package choice.resolved choice.product = .ok row) : row.Holds [choice] := by
  obtain ⟨_, _, _, ruleIds, n, rounded, quantity⟩ := ofRule_ok made
  refine ⟨ruleIds, [n], ?_, by simp [quantity]⟩
  rw [mapM_ok_iff]
  exact .cons rounded .nil

/-- A row that absorbs another holds the choices of both. -/
theorem Holds.merge {target other row : LineItem} {first second : List Choice}
    (holds : target.Holds first) (more : other.Holds second)
    (merged : target.merge other = .ok row) : row.Holds (first ++ second) := by
  obtain ⟨ruleIds, added⟩ := merge_adds merged
  obtain ⟨units, rounded, quantity⟩ := holds.quantity
  obtain ⟨others, roundedOthers, otherQuantity⟩ := more.quantity
  rw [mapM_ok_iff] at rounded roundedOthers
  refine ⟨?_, units ++ others, ?_, ?_⟩
  · rw [ruleIds, holds.ruleIds, more.ruleIds, List.map_append]
  · rw [mapM_ok_iff]
    exact List.rel_append rounded roundedOthers
  · rw [quantity, otherQuantity] at added
    rw [List.sum_append]
    exact (Except.ok.inj added).symm

/-! ## Sheets -/

/-- The sheet has a row for each id of a choice. The row holds the choices with that id, and belongs to
the package and the product of the first of them. -/
structure Sheet.Tallies (sheet : Sheet) (chosen : List Choice) : Prop where
  keyed : sheet.rows.KeyedBy id
  covers : ∀ k, k ∈ sheet.rows.keys ↔ k ∈ chosen.map Choice.rowId
  holds : sheet.rows.Each fun k row => row.Holds (chosen.filter fun choice => choice.rowId = k)
  first : sheet.rows.Each fun k row =>
    (chosen.find? fun choice => choice.rowId = k).map Choice.pair = some row.pair

/-- The first of some choices stays the first when others follow. -/
theorem map_find?_append {α β : Type} {p : α → Bool} {f : α → β} {xs ys : List α} {b : β}
    (found : (xs.find? p).map f = some b) : ((xs ++ ys).find? p).map f = some b := by
  obtain ⟨a, first, own⟩ := Option.map_eq_some_iff.1 found
  rw [List.find?_append, first]
  exact congrArg some own

theorem Sheet.tallies_empty : Sheet.empty.Tallies [] where
  keyed := OrderedMap.keyedBy_empty _
  covers _ := Iff.rfl
  holds := OrderedMap.each_empty _
  first := OrderedMap.each_empty _

section Insert

variable {sheet : Sheet} {chosen : List Choice} {choice : Choice} {row : LineItem}

/-- The row of one more choice is put in its place. -/
theorem Sheet.Tallies.insert (tallies : sheet.Tallies chosen) (named : row.id = choice.rowId)
    (holds : row.Holds ((chosen.filter fun other => other.rowId = choice.rowId) ++ [choice]))
    (first : ((chosen ++ [choice]).find? fun other => other.rowId = choice.rowId).map Choice.pair =
      some row.pair) :
    Sheet.Tallies { sheet with rows := sheet.rows.insert choice.rowId row } (chosen ++ [choice]) := by
  refine ⟨tallies.keyed.insert named, fun k => ?_,
    tallies.holds.insert_group (fun _ chosen row => LineItem.Holds row chosen) holds,
    fun k other found => ?_⟩
  · rw [OrderedMap.mem_keys_insert_iff, tallies.covers, List.map_append, List.mem_append,
      List.map_singleton, List.mem_singleton]
  · rw [OrderedMap.get?_insert] at found
    split at found
    · rename_i own
      subst own
      cases found
      exact first
    · rename_i other
      exact map_find?_append (tallies.first k _ found)

theorem Sheet.Tallies.add {next : Sheet} {package : Option Package} (tallies : sheet.Tallies chosen)
    (made : ofRule package choice.resolved choice.product = .ok row)
    (added : sheet.add row = .ok next) : next.Tallies (chosen ++ [choice]) := by
  have holds := ofRule_holds made
  obtain ⟨named, instanceId, shows, _⟩ := ofRule_ok made
  have placed : row.pair = choice.pair := Prod.ext instanceId shows.productId
  have own : row.id = choice.rowId := named
  rcases Sheet.add_ok added with ⟨found, rfl⟩ | ⟨existing, merged, found, absorbed, rfl⟩ <;>
    rw [own] at found ⊢
  · -- No choice before has this id, so the row holds this one alone.
    have absent : choice.rowId ∉ chosen.map Choice.rowId := by
      rw [← tallies.covers]
      exact OrderedMap.get?_eq_none_iff.1 found
    have unasked : ∀ other ∈ chosen, other.rowId ≠ choice.rowId := fun other listed same =>
      absent (List.mem_map.2 ⟨other, listed, same⟩)
    have nothing := Grouping.filter_key_eq_nil absent
    have none : (chosen.find? fun other => other.rowId = choice.rowId) = none := by
      simpa [List.find?_eq_none] using unasked
    refine tallies.insert own ?_ ?_
    · rwa [nothing]
    · rw [List.find?_append, none, placed]
      simp
  · obtain ⟨kept, product⟩ := merge_keeps absorbed
    have stays : merged.pair = existing.pair := Prod.ext kept.instanceId product
    refine tallies.insert ?_ ((tallies.holds _ _ found).merge holds absorbed) ?_
    · exact kept.id.trans (tallies.keyed _ _ found)
    · rw [stays]
      exact map_find?_append (tallies.first _ _ found)

end Insert

section Build

variable {catalog : Catalog} {preference : Preference} {resolution : Resolution} {sheet : Sheet}

theorem addRule_tallies {rules : List ResolvedRule} {next : Sheet} {resolved : ResolvedRule}
    (tallies : sheet.Tallies (choices catalog preference rules))
    (added : addRule catalog preference sheet resolved = .ok next) :
    next.Tallies (choices catalog preference (rules ++ [resolved])) := by
  unfold choices at tallies ⊢
  rw [List.filterMap_append]
  cases selected : selected? catalog preference resolved with
  | none =>
    obtain ⟨same, left, rows⟩ := addRule_of_not_selected sheet selected
    rw [left] at added
    cases added
    obtain ⟨keyed, covers, holds, first⟩ := tallies
    have nothing : [resolved].filterMap (fun resolved =>
        (selected? catalog preference resolved).map (Choice.mk resolved)) = [] := by simp [selected]
    rw [nothing, List.append_nil]
    exact ⟨rows ▸ keyed, rows ▸ covers, rows ▸ holds, rows ▸ first⟩
  | some product =>
    rw [addRule_eq_of_selected sheet selected] at added
    obtain ⟨row, made, put⟩ := bind_ok_iff.1 added
    have one : [resolved].filterMap (fun resolved =>
        (selected? catalog preference resolved).map (Choice.mk resolved)) =
          [⟨resolved, product⟩] := by simp [selected]
    rw [one]
    exact tallies.add made put

/-- Each id has one row, which holds the choices with that id. -/
theorem build_tallies (built : build catalog preference resolution = .ok sheet) :
    sheet.Tallies (choices catalog preference resolution.rules) :=
  foldlM_prefix (p := fun rules sheet => Sheet.Tallies sheet (choices catalog preference rules))
    built Sheet.tallies_empty fun _ _ _ _ _ tallies added => addRule_tallies tallies added

end Build

/-! ## Rows of pairs -/

section Pairs

variable {sheet : Sheet} {chosen : List Choice}

theorem mem_choices {catalog : Catalog} {preference : Preference} {rules : List ResolvedRule}
    {choice : Choice} (listed : choice ∈ choices catalog preference rules) :
    choice.resolved ∈ rules := by
  unfold choices at listed
  obtain ⟨resolved, present, made⟩ := List.mem_filterMap.1 listed
  obtain ⟨product, _, rfl⟩ := Option.map_eq_some_iff.1 made
  exact present

/-- A row has the id and the pair of the first choice with its id. -/
theorem Sheet.Tallies.exists_first (tallies : sheet.Tallies chosen) {row : LineItem}
    (present : row ∈ sheet.rows.values) :
    ∃ first, (chosen.find? fun choice => choice.rowId = row.id) = some first ∧
      first ∈ chosen ∧ first.rowId = row.id ∧ first.pair = row.pair := by
  obtain ⟨first, known, own⟩ :=
    Option.map_eq_some_iff.1 (tallies.first _ _ (tallies.keyed.get?_of_mem present))
  have sameId : first.rowId = row.id := by simpa using List.find?_some known
  exact ⟨first, known, List.mem_of_find?_eq_some known, sameId, own⟩

theorem Sheet.Tallies.exists_row (tallies : sheet.Tallies chosen) {choice : Choice}
    (asked : choice ∈ chosen) : ∃ row ∈ sheet.rows.values, row.id = choice.rowId := by
  have listed := (tallies.covers choice.rowId).2 (List.mem_map_of_mem asked)
  obtain ⟨row, found⟩ := OrderedMap.mem_keys_iff.1 listed
  exact ⟨row, OrderedMap.mem_values_iff.2 ⟨_, found⟩, tallies.keyed _ _ found⟩

theorem Sheet.Tallies.holds_own (tallies : sheet.Tallies chosen) {row : LineItem}
    (present : row ∈ sheet.rows.values) :
    row.Holds (chosen.filter fun choice => choice.rowId = row.id) :=
  tallies.holds _ _ (tallies.keyed.get?_of_mem present)

/-- There is one row for each id. -/
theorem Sheet.Tallies.onePerId (tallies : sheet.Tallies chosen) :
    OnePer Choice.rowId (·.id) sheet.rows.values chosen where
  distinct := tallies.keyed.nodup
  covers k := by
    constructor
    · rintro listed
      obtain ⟨row, present, rfl⟩ := List.mem_map.1 listed
      obtain ⟨first, _, asked, own, _⟩ := tallies.exists_first present
      exact List.mem_map.2 ⟨first, asked, own⟩
    · rintro listed
      obtain ⟨choice, asked, rfl⟩ := List.mem_map.1 listed
      obtain ⟨row, present, own⟩ := tallies.exists_row asked
      exact List.mem_map.2 ⟨row, present, own⟩
  holds _ present := tallies.holds_own present

theorem Choice.rowId_eq_of_pair {a b : Choice} (same : a.pair = b.pair) : a.rowId = b.rowId := by
  obtain ⟨instanceId, product⟩ := Prod.mk.inj same
  unfold rowId
  rw [instanceId, product]

theorem Sheet.Tallies.rowId_eq (tallies : sheet.Tallies chosen) {row : LineItem}
    (present : row ∈ sheet.rows.values) {choice : Choice} (own : choice.pair = row.pair) :
    choice.rowId = row.id := by
  obtain ⟨first, _, _, sameId, pair⟩ := tallies.exists_first present
  exact (Choice.rowId_eq_of_pair (own.trans pair.symm)).trans sameId

/-- Where each pair has its own row, two pairs with one id are one: their rows are. -/
theorem Sheet.Tallies.apart_of_onePer (tallies : sheet.Tallies chosen)
    (one : OnePer Choice.pair LineItem.pair sheet.rows.values chosen) :
    ∀ a ∈ chosen, ∀ b ∈ chosen, a.rowId = b.rowId → a.pair = b.pair := by
  intro a askedA b askedB same
  obtain ⟨rowA, presentA, ownA⟩ := List.mem_map.1 ((one.covers _).2 (List.mem_map_of_mem askedA))
  obtain ⟨rowB, presentB, ownB⟩ := List.mem_map.1 ((one.covers _).2 (List.mem_map_of_mem askedB))
  have sameId : rowA.id = rowB.id := calc
    rowA.id = a.rowId := (tallies.rowId_eq presentA ownA.symm).symm
    _ = b.rowId := same
    _ = rowB.id := tallies.rowId_eq presentB ownB.symm
  have sameRow := List.inj_on_of_nodup_map tallies.keyed.nodup presentA presentB sameId
  rw [← ownA, ← ownB, sameRow]

/-- Where no two pairs have one id, each pair has its own row. -/
theorem Sheet.Tallies.onePer_of_apart (tallies : sheet.Tallies chosen)
    (apart : ∀ a ∈ chosen, ∀ b ∈ chosen, a.rowId = b.rowId → a.pair = b.pair) :
    OnePer Choice.pair LineItem.pair sheet.rows.values chosen := by
  have ids : (sheet.rows.values.map (·.id)).Nodup := tallies.keyed.nodup
  have pairOf : ∀ row ∈ sheet.rows.values, ∀ choice ∈ chosen,
      choice.rowId = row.id ↔ choice.pair = row.pair := by
    intro row present choice asked
    refine ⟨fun sameId => ?_, tallies.rowId_eq present⟩
    obtain ⟨first, _, askedFirst, firstId, own⟩ := tallies.exists_first present
    exact (apart choice asked first askedFirst (sameId.trans firstId.symm)).trans own
  refine ⟨?_, fun k => ⟨?_, ?_⟩, fun row present => ?_⟩
  · refine List.Nodup.map_on (fun x inX y inY same => ?_) ids.of_map
    obtain ⟨first, _, _, firstId, own⟩ := tallies.exists_first inX
    have idY := tallies.rowId_eq inY (own.trans same)
    exact List.inj_on_of_nodup_map ids inX inY (firstId.symm.trans idY)
  · rintro listed
    obtain ⟨row, present, rfl⟩ := List.mem_map.1 listed
    obtain ⟨first, _, asked, _, own⟩ := tallies.exists_first present
    exact List.mem_map.2 ⟨first, asked, own⟩
  · rintro listed
    obtain ⟨choice, asked, rfl⟩ := List.mem_map.1 listed
    obtain ⟨row, present, own⟩ := tallies.exists_row asked
    exact List.mem_map.2 ⟨row, present, ((pairOf row present choice asked).1 own.symm).symm⟩
  · have same : (chosen.filter fun choice => choice.pair = row.pair) =
        chosen.filter fun choice => choice.rowId = row.id :=
      List.filter_congr fun choice asked => by simp [pairOf row present choice asked]
    rw [same]
    exact tallies.holds_own present

end Pairs

/-- Rows of packages whose ids are given out share an id only if they share the package and the
product. -/
theorem lineItemId_injective {i j p q : String} (first : Given i) (second : Given j)
    (same : lineItemId i p = lineItemId j q) : i = j ∧ p = q := by
  have package : i = j := by
    by_contra different
    have begins := lineItemId_startsWith i p
    rw [same] at begins
    exact first.not_nested second q ((lineItemId_startsWith_iff different q).1 begins)
  subst package
  exact ⟨rfl, lineItemId_right_inj.1 same⟩

/-- Each id has one row, which holds the choices with that id and belongs to the package and the product
of the first of them. So each pair has one row exactly if no two pairs have one id, and this is so for
packages whose ids are given out. -/
theorem build_perPair_iff {catalog : Catalog} {preference : Preference} {resolution : Resolution}
    {sheet : Sheet} (built : build catalog preference resolution = .ok sheet) :
    OnePer Choice.rowId (·.id) sheet.rows.values (choices catalog preference resolution.rules) ∧
    (∀ row ∈ sheet.rows.values, ∃ first,
      (choices catalog preference resolution.rules).find? (fun choice => choice.rowId = row.id) =
        some first ∧ row.pair = first.pair) ∧
    (OnePer Choice.pair LineItem.pair sheet.rows.values
        (choices catalog preference resolution.rules) ↔
      ∀ a ∈ choices catalog preference resolution.rules,
        ∀ b ∈ choices catalog preference resolution.rules,
          a.rowId = b.rowId → a.pair = b.pair) ∧
    ((∀ resolved ∈ resolution.rules, Given resolved.instanceId) →
      OnePer Choice.pair LineItem.pair sheet.rows.values
        (choices catalog preference resolution.rules)) := by
  have tallies := build_tallies built
  refine ⟨tallies.onePerId, fun row present => ?_,
    ⟨tallies.apart_of_onePer, tallies.onePer_of_apart⟩, fun given => ?_⟩
  · obtain ⟨first, found, _, _, own⟩ := tallies.exists_first present
    exact ⟨first, found, own.symm⟩
  · refine tallies.onePer_of_apart fun a askedA b askedB same => ?_
    obtain ⟨package, product⟩ := lineItemId_injective (given _ (mem_choices askedA))
      (given _ (mem_choices askedB)) same
    exact Prod.ext package product

/-! ## Two packages in one row -/

/-- Two packages with a product each. A dash is in the id of the first product. -/
def dashedProducts : Catalog where
  packages := .ofList [(1, ⟨1, "Flat", none, none, none, false⟩),
    (2, ⟨2, "House", none, none, none, false⟩)]
  rules := [
    ⟨1, 1, "sockets", 2.0, [], [], ⟨[], some "b-c"⟩⟩,
    ⟨2, 2, "lamps", 3.0, [], [], ⟨[], some "c"⟩⟩,
    ⟨3, 2, "lamps", 1.5, [], [], ⟨[], some "c"⟩⟩]
  products := [
    ⟨"b-c", "Socket", "Stk", 5.0, some "sockets", none, .const 0.0, none, [], none⟩,
    ⟨"c", "Lamp", "Stk", 20.0, some "lamps", none, .const 0.0, none, [], none⟩]
  groups := .empty
  parameters := .empty
  links := []

/-- No tier and no location. -/
def anywhere : Preference := ⟨none, none⟩

/-- Both packages, under these ids. -/
def bothPackages (first second : String) : List Instance :=
  [⟨first, .num (.int 1), .empty⟩, ⟨second, .num (.int 2), .empty⟩]

/-- The resolution and the rows of both packages. -/
def bothBuilt (first second : String) : Except Fault (Resolution × Sheet) := do
  let resolution ← Resolution.resolve dashedProducts (bothPackages first second) .empty
  return (resolution, ← build dashedProducts anywhere resolution)

theorem bothBuilt_ok {first second : String} {resolution : Resolution} {sheet : Sheet}
    (both : bothBuilt first second = .ok (resolution, sheet)) :
    Resolution.resolve dashedProducts (bothPackages first second) .empty = .ok resolution ∧
      build dashedProducts anywhere resolution = .ok sheet := by
  unfold bothBuilt at both
  obtain ⟨_, resolved, rest⟩ := bind_ok_iff.1 both
  obtain ⟨_, built, same⟩ := bind_ok_iff.1 rest
  cases same
  exact ⟨resolved, built⟩

theorem joinedIds_rows : (bothBuilt "a" "a-b").toOption.map (fun both =>
    (both.2.rows.values.map LineItem.pair, both.2.rows.values.map (·.ruleIds),
      (choices dashedProducts anywhere both.1.rules).map Choice.pair)) =
    some ([("a", "b-c")], [[1, 2, 3]], [("a", "b-c"), ("a-b", "c"), ("a-b", "c")]) := by
  decide +kernel

/-- The ids of the packages are distinct, but a product of one and a product of the other end up in one
row. -/
theorem joinedIds_merged : ((bothPackages "a" "a-b").map (·.id)).Nodup ∧
    ∃ resolution sheet,
      Resolution.resolve dashedProducts (bothPackages "a" "a-b") .empty = .ok resolution ∧
      build dashedProducts anywhere resolution = .ok sheet ∧
      sheet.rows.values.map LineItem.pair = [("a", "b-c")] ∧
      sheet.rows.values.map (·.ruleIds) = [[1, 2, 3]] ∧
      ¬ OnePer Choice.pair LineItem.pair sheet.rows.values
        (choices dashedProducts anywhere resolution.rules) := by
  obtain ⟨⟨resolution, sheet⟩, both, facts⟩ := toOption_map_eq_some_iff.1 joinedIds_rows
  obtain ⟨pairs, facts⟩ := Prod.mk.inj facts
  obtain ⟨ruleIds, asked⟩ := Prod.mk.inj facts
  obtain ⟨resolved, built⟩ := bothBuilt_ok both
  refine ⟨by decide, resolution, sheet, resolved, built, pairs, ruleIds, fun one => ?_⟩
  have missing := (one.covers ("a-b", "c")).2 (by rw [asked]; simp)
  rw [pairs] at missing
  revert missing
  decide

theorem givenIds_rows : (bothBuilt "1-00000001" "2-00000002").toOption.map (fun both =>
    (both.1.rules.map (·.instanceId), both.2.rows.values.map LineItem.pair,
      both.2.rows.values.map (·.ruleIds))) =
    some (["1-00000001", "2-00000002", "2-00000002"],
      [("1-00000001", "b-c"), ("2-00000002", "c")], [[1], [2, 3]]) := by decide +kernel

/-- Under ids that are given out, each package has its own row, and two rules of one package share one. -/
theorem givenIds_separate : ∃ resolution sheet,
    Resolution.resolve dashedProducts (bothPackages "1-00000001" "2-00000002") .empty =
      .ok resolution ∧
    build dashedProducts anywhere resolution = .ok sheet ∧
    sheet.rows.values.map (·.ruleIds) = [[1], [2, 3]] ∧
    OnePer Choice.pair LineItem.pair sheet.rows.values
      (choices dashedProducts anywhere resolution.rules) := by
  obtain ⟨⟨resolution, sheet⟩, both, facts⟩ := toOption_map_eq_some_iff.1 givenIds_rows
  obtain ⟨packages, facts⟩ := Prod.mk.inj facts
  obtain ⟨_, ruleIds⟩ := Prod.mk.inj facts
  obtain ⟨resolved, built⟩ := bothBuilt_ok both
  refine ⟨resolution, sheet, resolved, built, ruleIds, ?_⟩
  refine (build_perPair_iff built).2.2.2 fun rule listed => ?_
  have named : rule.instanceId ∈ resolution.rules.map (·.instanceId) := List.mem_map_of_mem listed
  rw [packages] at named
  have first : Given "1-00000001" := ⟨1, "00000001", by decide +kernel, by decide⟩
  have second : Given "2-00000002" := ⟨2, "00000002", by decide +kernel, by decide⟩
  rcases List.mem_cons.1 named with own | named
  · exact own ▸ first
  · rcases List.mem_cons.1 named with own | named
    · exact own ▸ second
    · rw [List.mem_singleton.1 named]
      exact second

end LineItem

end WiringQuote
