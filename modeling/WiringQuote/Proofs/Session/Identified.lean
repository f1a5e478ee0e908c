import WiringQuote.Proofs.Session.Instances
import WiringQuote.Proofs.Session.Removal

/-!
# Rows found by their ids

The ids of product rows are distinct, and so are those of protection rows, whatever the ids of the selected
packages are. Ids that are given out start with a digit or a dash, so that no product row of such a package
has the id of a protection row.

* `Generated`: the packages of a session were selected in it, or in a session whose state it restored.
* `rows_identified`: the rows of such a session have distinct ids, so that looking up an id finds the only
  row with it.
-/

namespace WiringQuote

open Fallible LineItem

/-! ## Packages of rows -/

/-- A resolved rule belongs to one of the selected packages. -/
theorem Resolution.instanceId_mem_of_resolved {catalog : Catalog} {instances : List Instance}
    {globals : Environment} {resolution : Resolution} {resolved : ResolvedRule}
    (known : resolve catalog instances globals = .ok resolution)
    (listed : resolved ∈ resolution.rules) : resolved.instanceId ∈ instances.map (·.id) := by
  obtain ⟨direct, first, _, second, _⟩ := resolve_passes known
  obtain ⟨pair, inDirect, same, _⟩ := exists_mem_of_pairs second listed
  have present : resolved.toOccurrence ∈ occurrences catalog instances globals := by
    rw [(directQuantities_ok first).1, same]
    exact List.mem_map_of_mem inDirect
  unfold occurrences at present
  obtain ⟨inst, selected, own⟩ := List.mem_flatMap.1 present
  split at own
  · obtain ⟨rule, _, same⟩ := List.mem_map.1 own
    rw [show resolved.instanceId = inst.id from congrArg Occurrence.instanceId same.symm]
    exact List.mem_map_of_mem selected
  · cases own

/-! ## Stores with given ids -/

namespace Store

/-- The packages are selected under ids that are given out. -/
def GivenIds (store : Store) : Prop := store.EachPackage fun id _ => Given id

variable {reference : Reference} {store : Store}

theorem GivenIds.saved (given : store.GivenIds) :
    ∀ inst ∈ store.saved.instances, Given inst.id := by
  intro inst listed
  obtain ⟨entry, present, rfl⟩ := List.mem_map.1 listed
  exact given _ _ (OrderedMap.mem_entries_iff.1 present)

/-- Product rows belong to packages with such ids. -/
theorem GivenIds.items {stages : Configuration.Stages} (given : store.GivenIds)
    (of : stages.Of reference.catalog
      (store.overlay.revise reference.catalog (store.configuration reference).location)
      (store.configuration reference)) : ∀ row ∈ stages.items, Given row.instanceId := by
  have preserves : store.Preserves reference fun row => Given row.instanceId :=
    preserves_of_keeps fun _ _ kept own => kept.instanceId ▸ own
  refine preserves.items of (build_each preserves.merge ?_ of.built)
  intro resolved listed product row _ made
  obtain ⟨_, instanceId, _⟩ := ofRule_ok made
  rw [instanceId]
  obtain ⟨inst, selected, own⟩ :=
    List.mem_map.1 (Resolution.instanceId_mem_of_resolved of.quantities listed)
  obtain ⟨entry, present, rfl⟩ := List.mem_map.1 selected
  exact own ▸ given _ _ (OrderedMap.mem_entries_iff.1 present)

/-- The rows of a display have distinct ids. -/
theorem GivenIds.ids_nodup {display : Display} (given : store.GivenIds)
    (shows : store.display reference = .ok display) :
    ((display.items ++ display.protection).map (·.id)).Nodup := by
  obtain ⟨stages, of, rfl⟩ := display_ok_iff.1 shows
  have tidy := store.overlay.revise_tidy reference.catalog (store.configuration reference).location
  have ids : ((stages.items.map store.overlay.valueRow ++
      stages.protection.map store.overlay.valueRow).map (·.id)) =
      stages.items.map (·.id) ++ stages.protection.map (·.id) := by
    rw [List.map_append, List.map_map, List.map_map]
    rfl
  rw [ids, List.nodup_append, stages.items_ids]
  refine ⟨tidy.ids _ _ (build_ids_nodup of.built) of.revised,
    tidy.ids _ _ (Protection.derive_ids_nodup of.derived) of.protection, ?_⟩
  rw [← stages.items_ids]
  -- Across the two lists the ids differ in their first letters.
  intro productId product deviceId device same
  obtain ⟨item, inItems, rfl⟩ := List.mem_map.1 product
  obtain ⟨row, inProtection, rfl⟩ := List.mem_map.1 device
  obtain ⟨p, named⟩ := items_named of item inItems
  obtain ⟨q, deviceNamed⟩ := protection_named of row inProtection
  rw [Configuration.Stages.protection_placed tidy of inProtection] at deviceNamed
  rw [named, deviceNamed] at same
  exact (given.items of item inItems).lineItemId_ne p q same

end Store

/-! ## Sessions -/

namespace Session

/-- A session whose packages were all selected in it, or in a session like it whose saved state it
restored. Refused selections and any other writes may come in between, with any outcomes. -/
inductive Generated : Session → Prop
  | load {source : Source} {asked : Value} {s : Session} : Session.load source asked = .ok s →
      Generated s
  | select {s : Session} {tag : String} (packageId : Int) : Generated s → '-' ∉ tag.toList →
      Generated (s.write tag (.selectPackage (.int packageId))).2
  | restore {s t : Session} (tag : String) : Generated s → Generated t →
      Generated (s.write tag (.restore t.store.saved)).2
  | write {s : Session} {tag : String} {w : Write} : Generated s →
      (∀ packageId, w = .selectPackage packageId → (s.write tag w).2 = s) →
      (∀ saved, w ≠ .restore saved) → Generated (s.write tag w).2

variable {s : Session}

/-- The packages of the store, and of the store that is shown, have ids that are given out. -/
theorem Generated.givenIds (generated : Generated s) :
    s.store.GivenIds ∧ s.DisplaysOf Store.GivenIds := by
  have both : ∀ {s : Session} {tag : String} {w : Write},
      s.store.GivenIds ∧ s.DisplaysOf Store.GivenIds → (s.write tag w).2.store.GivenIds →
      (s.write tag w).2.store.GivenIds ∧ (s.write tag w).2.DisplaysOf Store.GivenIds :=
    fun before next => ⟨next, write_displaysOf before.2 next⟩
  -- By induction on how the session came about; only selecting and restoring bring in packages.
  induction generated with
  | @load _ _ s loaded =>
    obtain ⟨_, _, _, _, store, shown⟩ := load_ok loaded
    have none : s.store.GivenIds := by
      rw [store]
      exact OrderedMap.each_empty _
    exact ⟨none, s.store, none, shown⟩
  | @select s tag packageId _ free ih =>
    refine both ih (write_eachPackage ih.1 tag (fun id same => ?_) fun saved same => ?_)
    · cases same
      exact ⟨packageId, tag, rfl, free⟩
    · cases same
  | @restore s t tag _ _ ih other =>
    refine both ih (write_eachPackage ih.1 tag (fun id same => ?_) fun saved same => ?_)
    · cases same
    · cases same
      exact other.1.saved
  | @write s tag w _ refused restores ih =>
    by_cases selects : ∃ packageId, w = .selectPackage packageId
    · obtain ⟨packageId, selects⟩ := selects
      rw [refused packageId selects]
      exact ih
    · refine both ih (write_eachPackage ih.1 tag (fun id same => ?_) fun saved same => ?_)
      · exact absurd ⟨id, same⟩ selects
      · exact absurd same (restores saved)

/-- The displayed rows of a session with generated packages have distinct ids, each starts with the id of
the row's package and a dash, and looking up an id finds the only row with it. -/
theorem rows_identified (generated : Generated s) :
    (s.rows.map (·.id)).Nodup ∧
    (∀ row ∈ s.rows, row.id.startsWith (row.instanceId ++ "-") = true) ∧
    ∀ id row, s.row? id = some row ↔ row ∈ s.rows ∧ row.id = id := by
  obtain ⟨store, given, shows⟩ := generated.givenIds.2
  have ids : (s.rows.map (·.id)).Nodup := given.ids_nodup shows
  refine ⟨ids, fun row shown => ?_, fun id row => ⟨fun found => ?_, fun own => ?_⟩⟩
  · obtain ⟨productId, named⟩ := rows_named ⟨store, shows⟩ shown
    rw [named]
    exact lineItemId_startsWith row.instanceId productId
  · unfold row? at found
    exact ⟨List.mem_of_find?_eq_some found, by simpa using List.find?_some found⟩
  · obtain ⟨shown, rfl⟩ := own
    unfold row?
    cases found : s.rows.find? fun item => item.id = row.id with
    | none => simpa using List.find?_eq_none.1 found row shown
    | some other =>
      have same : other.id = row.id := by simpa using List.find?_some found
      exact congrArg some
        (List.inj_on_of_nodup_map ids (List.mem_of_find?_eq_some found) shown same)

/-- Two boards, and more sockets than the second one asks for. -/
def twoBoards : List (String × Write) := [
  (Identifier.tag 1, .selectPackage (.int 1)),
  (Identifier.tag 2, .selectPackage (.int 1)),
  ("", .setQuantity (.str "1-00000002-SKT") (.int 9))]

/-- A new session restores what is saved of both boards. -/
def restoredBoards (start : Session) : Session :=
  (start.write "" (.restore (start.after twoBoards).store.saved)).2

theorem restoredBoards_generated {source : Source} {start : Session}
    (loaded : Session.load source .null = .ok start) : Generated start.restoredBoards := by
  refine .restore "" (.load loaded) ?_
  have first := Generated.select 1 (.load loaded) (dash_not_mem_tag 1)
  have second := Generated.select 1 first (dash_not_mem_tag 2)
  exact .write second (fun _ same => by cases same) fun _ same => by cases same

theorem restoredBoards_rows : (Session.load twoEnclosures .null).toOption.map (fun start =>
    (start.restoredBoards.rows.map (·.id),
      (start.restoredBoards.row? "1-00000002-SKT").map (·.quantity))) =
    some (["1-00000001-SKT", "1-00000001-UV-24", "1-00000001-UV-12", "1-00000002-SKT",
      "1-00000002-UV-24", "1-00000002-UV-12", "schutzorgane-MCB16"], some (.int 9)) := by
  decide +kernel

/-- The rows of both boards are told apart, and the row of one of them is found by its id. -/
theorem restoredBoards_identified : ∃ start s row, Session.load twoEnclosures .null = .ok start ∧
    Generated s ∧ (s.rows.map (·.id)).length = 7 ∧ (s.rows.map (·.id)).Nodup ∧
    s.row? "1-00000002-SKT" = some row ∧ row.quantity = .int 9 ∧ row ∈ s.rows ∧
    row.id.startsWith (row.instanceId ++ "-") = true := by
  obtain ⟨start, loaded, facts⟩ := toOption_map_eq_some_iff.1 restoredBoards_rows
  obtain ⟨ids, found⟩ := Prod.mk.inj facts
  obtain ⟨row, first, quantity⟩ := Option.map_eq_some_iff.1 found
  have generated := restoredBoards_generated loaded
  obtain ⟨distinct, starts, only⟩ := rows_identified generated
  have shown := ((only _ _).1 first).1
  exact ⟨start, _, row, loaded, generated, by rw [ids]; rfl, distinct, first, quantity, shown,
    starts row shown⟩

end Session

end WiringQuote
