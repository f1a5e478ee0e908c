import WiringQuote.Proofs.Session.Alternatives
import WiringQuote.Proofs.Session.Local
import WiringQuote.Proofs.Session.Restaged

/-!
# Accepted swaps

A swap that is carried out changes one row in its place: it is displayed with the new product, and its
id, its quantity and its multiplier stay, as do all other rows. Two things can get in its way. The first
enclosure row is sized after rows are swapped, so it shows the enclosure that its breakers need. And a row
that is merged with others takes these along.

* `swap_ok`: what a swap that is carried out is accepted by, and what it shows.
* `swap_shown`: what is displayed after a swap of a row that is merged with no other.
* `enclosure_notSwapped`: an enclosure that is displayed as it was before it was swapped.
-/

namespace WiringQuote

open Fallible LineItem

namespace Session

variable {start s t : Session} {id productId : String}

/-- The product that a row of the product shows in a session: the enclosure that is needed if the row is the
first enclosure, else that product. -/
def sizedId (s : Session) (id : String) (product : Product) : String :=
  Enclosure.sizedId s.catalog (s.store.configuration s.reference).preference s.display.items
    s.display.protection id product.id product.quality

/-- A swap that is carried out is to a product that can stand in for that of a displayed row, and it shows
the store with the swap. -/
theorem swap_ok {tag : String}
    (done : s.write tag (.swap (.str id) (.str productId)) = (.ok (), t)) :
    ∃ row product, s.row? id = some row ∧ s.catalog.product? productId = some product ∧
      Overlay.isAlternative s.locationName row product = true ∧ s.clash? row productId = none ∧
      (s.overlaid (s.store.overlay.withSwap id productId)).display s.reference = .ok t.display ∧
      t = { s with
        store := s.overlaid (s.store.overlay.withSwap id productId), display := t.display } := by
  rw [write_eq] at done
  obtain ⟨store, planned, shows, same⟩ := carryOut_ok done
  obtain ⟨row, shown⟩ : ∃ row, s.row? id = some row := by
    unfold planSwap at planned
    obtain ⟨row, found, _⟩ := bind_ok_iff.1 planned
    unfold findRow at found
    split at found
    · rename_i row shown
      exact ⟨row, shown⟩
    · cases found
  have own : row.id = id := by simpa using List.find?_some shown
  obtain ⟨⟨product, known, standsIn⟩, free, rfl⟩ := (planSwap_ok_iff shown).1 planned
  rw [own] at shows same
  exact ⟨row, product, shown, known, standsIn, free, shows, same⟩

/-- The rows of a stage and their displayed forms differ in nothing that a swap is accepted by. -/
theorem acceptable_of_displayed {row : LineItem} {product : Product} {rows : List LineItem}
    {overlay : Overlay} (named : productId ≠ "") (displayed : s.rows = rows.map overlay.valueRow)
    (shown : s.row? id = some row) (known : s.catalog.product? productId = some product)
    (standsIn : Overlay.isAlternative s.locationName row product = true)
    (free : s.clash? row productId = none) :
    ∃ staged, Store.Acceptable s.reference s.store productId rows staged product ∧ staged.id = id := by
  unfold clash? at free
  have present := List.mem_of_find?_eq_some shown
  have own : row.id = id := by simpa using List.find?_some shown
  rw [displayed] at present free
  obtain ⟨staged, listed, rfl⟩ := List.mem_map.1 present
  refine ⟨staged, ⟨named, known, listed, standsIn, fun other inRows apart pair => ?_⟩, own⟩
  obtain ⟨instanceId, isProduct⟩ := Prod.mk.inj pair
  have clashes := List.find?_eq_none.1 free _ (List.mem_map_of_mem inRows)
  simp only [Overlay.valueRow, Bool.not_eq_true] at clashes
  simp [apart, instanceId, isProduct] at clashes

/-- A swap that is carried out, in a session that shows its store, of a row that is merged with no other;
if the new product is an enclosure, neither afterwards. The row is displayed in its place, with its quantity
and its multiplier, and with the new product, or with the enclosure that is needed if it is the first
enclosure; and nothing else that is displayed changes. -/
theorem swap_shown {source : Source} {asked : Value} {tag : String}
    (loaded : Session.load source asked = .ok start) (run : Run anyOutcome start s)
    (fresh : s.store.display s.reference = .ok s.display) (named : productId ≠ "")
    (done : s.write tag (.swap (.str id) (.str productId)) = (.ok (), t))
    (before : s.store.Unmerged s.reference id)
    (after : ∀ product ∈ s.catalog.products, product.id = productId →
      product.group = some ProductGroups.enclosure → t.store.Unmerged t.reference id) :
    ∃ product ∈ s.catalog.products, product.id = productId ∧ (∃ row ∈ s.rows, row.id = id) ∧
      List.Forall₂ (SwapsTo id (t.sizedId id product)) s.display.items t.display.items ∧
      List.Forall₂ (SwapsTo id (t.sizedId id product)) s.display.protection t.display.protection := by
  have canonical := (run_valid loaded run).2.canonical
  obtain ⟨row, product, shown, known, standsIn, free, shows, same⟩ := swap_ok done
  obtain ⟨stages, of, display⟩ := Store.display_ok_iff.1 fresh
  obtain ⟨next, ofNext, displayNext⟩ := Store.display_ok_iff.1 shows
  have displayed : s.rows = (stages.items ++ stages.protection).map s.store.overlay.valueRow := by
    unfold rows
    rw [display, List.map_append]
  obtain ⟨staged, accepts, rfl⟩ := acceptable_of_displayed named displayed shown known standsIn free
  rw [same] at after
  obtain ⟨item, reswapped, swaps⟩ :=
    Store.exists_reswapped canonical of ofNext accepts before after
  obtain ⟨listed, present, own, shows⟩ := swaps.shows accepts
  have sized : t.sizedId staged.id listed = Enclosure.sizedId s.reference.catalog
      (s.store.configuration s.reference).preference next.revised next.protection staged.id
      reswapped.productId reswapped.quality := by
    have ids := Overlay.revise_ids_nodup (Store.built_asMade of canonical).ids
      (Store.built_eq of ofNext ▸ ofNext.revised)
    rw [shows.productId, shows.quality]
    refine Eq.trans ?_ (Store.sizedId_display ofNext ids s.store.overlay _)
    unfold sizedId
    rw [displayNext, same]
    rfl
  have rows : ∀ {before after : List LineItem},
      List.Forall₂ (SwapsTo staged.id (t.sizedId staged.id listed)) before after →
      List.Forall₂ (SwapsTo staged.id (t.sizedId staged.id listed))
        (before.map s.store.overlay.valueRow) (after.map s.store.overlay.valueRow) := by
    intro before after pairs
    rw [List.forall₂_map_left_iff, List.forall₂_map_right_iff]
    exact pairs.imp fun _ _ pair => pair.valueRow _
  refine ⟨listed, present, own, ⟨_, List.mem_of_find?_eq_some shown,
    by simpa using List.find?_some shown⟩, ?_, ?_⟩
  · rw [display, displayNext]
    exact rows (sized ▸ swaps.items)
  · rw [display, displayNext]
    exact rows (sized ▸ swaps.protection)

/-- The sockets of a package are swapped to cheaper ones. -/
def cheaperSockets : Write := .swap (.str "1-00000001-PRE") (.str "STD")

theorem cheaperSockets_shown : (Session.load twoLocations .null).toOption.map (fun start =>
    let s := start.after selection
    let t := (s.write "" cheaperSockets).2
    (start.settles selection, (s.write "" cheaperSockets).1.isOk,
      decide (s.store.Unmerged s.reference "1-00000001-PRE" ∧
        (Enclosure.row? t.display.items).isNone ∧
        ∀ product ∈ s.catalog.products, product.group ≠ some ProductGroups.enclosure),
      t.rows.map fun row => (row.id, row.productId))) =
    some (true, true, true, [("1-00000001-PRE", "STD")]) := by decide +kernel

/-- They are displayed in the place of the others, in the same quantity. -/
theorem cheaperSockets_swapped : ∃ start s t product, Session.load twoLocations .null = .ok start ∧
    Run anyOutcome start s ∧ s.store.display s.reference = .ok s.display ∧
    s.write "" cheaperSockets = (.ok (), t) ∧ s.store.Unmerged s.reference "1-00000001-PRE" ∧
    (∀ product ∈ s.catalog.products, product.id = "STD" →
      product.group = some ProductGroups.enclosure → t.store.Unmerged t.reference "1-00000001-PRE") ∧
    t.rows.map (fun row => (row.id, row.productId)) = [("1-00000001-PRE", "STD")] ∧
    product.id = "STD" ∧ t.sizedId "1-00000001-PRE" product = "STD" ∧
    List.Forall₂ (SwapsTo "1-00000001-PRE" "STD") s.display.items t.display.items := by
  obtain ⟨start, loaded, facts⟩ := toOption_map_eq_some_iff.1 cheaperSockets_shown
  obtain ⟨settles, facts⟩ := Prod.mk.inj facts
  obtain ⟨done, facts⟩ := Prod.mk.inj facts
  obtain ⟨decided, rows⟩ := Prod.mk.inj facts
  obtain ⟨t, done⟩ := done_of_isOk done
  rw [done] at decided rows
  obtain ⟨unmerged, noBoard, groups⟩ := of_decide_eq_true decided
  have noBoard := Option.isNone_iff_eq_none.1 noBoard
  have settled := run_selection settles
  have fresh := run_fresh loaded settled
  have run : Run anyOutcome start _ := settled.mono fun _ _ _ => trivial
  have after : ∀ product ∈ (start.after selection).catalog.products, product.id = "STD" →
      product.group = some ProductGroups.enclosure →
        t.store.Unmerged t.reference "1-00000001-PRE" :=
    fun product listed _ group => absurd group (groups product listed)
  obtain ⟨product, _, own, _, items, _⟩ :=
    swap_shown loaded run fresh (by decide) done unmerged after
  have sized : t.sizedId "1-00000001-PRE" product = "STD" := by
    unfold sizedId Enclosure.sizedId
    rw [noBoard, own]
    rfl
  exact ⟨start, _, t, product, loaded, run, fresh, done, unmerged, after, rows, own, sized,
    sized ▸ items⟩

/-! ## A swap that is not shown -/

/-- A package with the smaller of the two enclosures alone. -/
def oneEnclosure : Source :=
  { twoEnclosures with rows := { twoEnclosures.rows with items := twoEnclosures.rows.items.eraseIdx 1 } }

/-- It is swapped to the larger one. -/
def largerBoard : Write := .swap (.str "1-00000001-UV-12") (.str "UV-24")

theorem largerBoard_rows : (Session.load oneEnclosure .null).toOption.map (fun start =>
    let s := start.after selection
    (start.settles selection, s.rows.map (fun row => (row.id, row.productId)),
      (s.write "" largerBoard).1.isOk,
      (s.write "" largerBoard).2.rows.map fun row => (row.id, row.productId))) =
    some (true, [("1-00000001-SKT", "SKT"), ("1-00000001-UV-12", "UV-12"),
        ("schutzorgane-MCB16", "MCB16")], true,
      [("1-00000001-SKT", "SKT"), ("1-00000001-UV-12", "UV-12"),
        ("schutzorgane-MCB16", "MCB16")]) := by decide +kernel

/-- It is still displayed as the smaller enclosure, which is all that its breaker needs. -/
theorem enclosure_notSwapped : ∃ start s t, Session.load oneEnclosure .null = .ok start ∧
    Run settled start s ∧ (∃ row ∈ s.rows, row.id = "1-00000001-UV-12") ∧
    s.write "" largerBoard = (.ok (), t) ∧
    ¬ ∃ row ∈ t.rows, row.id = "1-00000001-UV-12" ∧ row.productId = "UV-24" := by
  obtain ⟨start, loaded, facts⟩ := toOption_map_eq_some_iff.1 largerBoard_rows
  obtain ⟨settles, facts⟩ := Prod.mk.inj facts
  obtain ⟨before, facts⟩ := Prod.mk.inj facts
  obtain ⟨done, after⟩ := Prod.mk.inj facts
  obtain ⟨t, done⟩ := done_of_isOk done
  rw [done] at after
  refine ⟨start, _, t, loaded, run_selection settles, ?_, done, ?_⟩
  · have shown : ("1-00000001-UV-12", "UV-12") ∈
        (start.after selection).rows.map fun row => (row.id, row.productId) := by
      rw [before]
      decide
    obtain ⟨row, listed, pair⟩ := List.mem_map.1 shown
    exact ⟨row, listed, congrArg Prod.fst pair⟩
  · rintro ⟨row, listed, own, product⟩
    have shown : ("1-00000001-UV-12", "UV-24") ∈ t.rows.map fun row => (row.id, row.productId) :=
      List.mem_map.2 ⟨row, listed, by rw [own, product]⟩
    rw [after] at shown
    revert shown
    decide

end Session

end WiringQuote
