import WiringQuote.Proofs.Session.Revision
import WiringQuote.Proofs.Session.Run

/-!
# One row per selected package and product

The rows of a session are one per selected package and product, but for what the stage after merging
does: it may switch the enclosure row to a product of which its package has a row already.

* `rows_pairs_nodup_iff`: in every reached session the pairs of selected package and product are
  distinct exactly if no switched enclosure row doubles another one, and no selected package that is
  named as the protection package shares a product with it.
* `twoEnclosures_doubled`: two enclosures of one package come down to two rows of one product.
-/

namespace WiringQuote

open Fallible LineItem

namespace Store

/-- The stages that a shown store went through, and the rows that they yield. -/
theorem display_ok_iff {reference : Reference} {store : Store} {display : Display} :
    store.display reference = .ok display ↔
      ∃ stages : Configuration.Stages,
        stages.Of reference.catalog
          (store.overlay.revise reference.catalog (store.configuration reference).location)
          (store.configuration reference) ∧
        display = {
          items := stages.items.map store.overlay.valueRow
          protection := stages.protection.map store.overlay.valueRow
          diagnostics := store.rateDiagnostics ++ stages.result.diagnostics } := by
  unfold Store.display
  simp only [bind_ok_iff, pure_ok_iff, Configuration.resolve_ok_iff]
  constructor
  · rintro ⟨_, ⟨stages, of, rfl⟩, rfl⟩
    exact ⟨stages, of, rfl⟩
  · rintro ⟨stages, of, rfl⟩
    exact ⟨_, ⟨stages, of, rfl⟩, rfl⟩

end Store

namespace Session

/-- The rows of a reached session have distinct pairs of selected package and product exactly if
the last stage of resolving what is shown made no doubles. -/
theorem rows_pairs_nodup_iff {source : Source} {asked : Value} {start s : Session}
    (loaded : Session.load source asked = .ok start) (run : Run anyOutcome start s) :
    ∃ store : Store, ∃ stages : Configuration.Stages,
      store.display s.reference = .ok s.display ∧
      stages.Of s.catalog
        (store.overlay.revise s.catalog (store.configuration s.reference).location)
        (store.configuration s.reference) ∧
      ((s.rows.map pair).Nodup ↔ ¬ stages.Doubles ∧ ¬ stages.SharesDevice) := by
  obtain ⟨store, shown⟩ := run_displays loaded run
  obtain ⟨stages, of, display⟩ := Store.display_ok_iff.1 shown
  have pairs : s.rows.map pair = stages.result.all.map pair := by
    unfold rows Configuration.Result.all
    rw [display, List.map_append, List.map_append, List.map_map, List.map_map]
    rfl
  refine ⟨store, stages, shown, of, ?_⟩
  rw [pairs]
  exact stages.pairs_nodup_iff (Overlay.revise_tidy _ _ _) of

/-! ## Two enclosures of one package -/

/-- A package with a socket and two enclosures, of which the larger comes first. -/
def twoEnclosures : Source where
  rows := {
    packages := [.obj [("id", .int 1), ("name", .str "Unterverteilung")]]
    items := [
      .obj [("id", .int 1), ("package_id", .int 1), ("produkt_gruppe_id", .str "GRP-SOC-SKT"),
        ("quantity_base", .int 2)],
      .obj [("id", .int 2), ("package_id", .int 1), ("produkt_gruppe_id", .str "GRP-VERT-UV"),
        ("quantity_base", .int 1),
        ("product_selector", .obj [("selected_product_id", .str "UV-24")])],
      .obj [("id", .int 3), ("package_id", .int 1), ("produkt_gruppe_id", .str "GRP-VERT-UV"),
        ("quantity_base", .int 1),
        ("product_selector", .obj [("selected_product_id", .str "UV-12")])]]
    products := [
      .obj [("product_id", .str "SKT"), ("name", .str "SKT"),
        ("produkt_gruppe", .str "GRP-SOC-SKT"), ("qualitaetsstufe", .str "Standard"),
        ("unit_price", .float 5.0)],
      .obj [("product_id", .str "MCB16"), ("name", .str "MCB16"),
        ("produkt_gruppe", .str "GRP-MCB-B16"), ("qualitaetsstufe", .str "Standard"),
        ("unit_price", .float 8.0)],
      .obj [("product_id", .str "UV-12"), ("name", .str "UV-12"),
        ("produkt_gruppe", .str "GRP-VERT-UV"), ("qualitaetsstufe", .str "Standard"),
        ("unit_price", .float 30.0), ("module_slots", .int 12)],
      .obj [("product_id", .str "UV-24"), ("name", .str "UV-24"),
        ("produkt_gruppe", .str "GRP-VERT-UV"), ("qualitaetsstufe", .str "Standard"),
        ("unit_price", .float 50.0), ("module_slots", .int 24)]]
    groups := []
    parameters := []
    links := [] }
  rates := []
  markup := 0.0
  prices := []
  locations := [.obj [("loc_id", .str "1"), ("name", .str "Hamburg")]]
  currentLocation := .str "1"
  outage := none

/-- The pairs of all rows after the first package is selected. -/
def pairsAfterSelection (source : Source) : Option (List (String × String)) :=
  (Session.load source .null).toOption.map fun start =>
    (start.write "00000001" (.selectPackage (.int 1))).2.rows.map pair

/-- The first enclosure is switched to the product of the second. -/
theorem twoEnclosures_pairs : pairsAfterSelection twoEnclosures = some
    [("1-00000001", "SKT"), ("1-00000001", "UV-12"), ("1-00000001", "UV-12"),
      ("schutzorgane", "MCB16")] := by decide +kernel

theorem loaded_of_pairs {source : Source} {pairs : List (String × String)}
    (listed : pairsAfterSelection source = some pairs) :
    ∃ start s, Session.load source .null = .ok start ∧ Run anyOutcome start s ∧
      s.rows.map pair = pairs := by
  obtain ⟨start, loaded, same⟩ := toOption_map_eq_some_iff.1 listed
  exact ⟨start, _, loaded, .write .refl trivial, same⟩

/-- Two enclosures of one package come down to two rows of one product. -/
theorem twoEnclosures_doubled :
    ∃ start s, Session.load twoEnclosures .null = .ok start ∧ Run anyOutcome start s ∧
      ¬ (s.rows.map pair).Nodup := by
  obtain ⟨start, s, loaded, run, pairs⟩ := loaded_of_pairs twoEnclosures_pairs
  refine ⟨start, s, loaded, run, ?_⟩
  rw [pairs]
  decide

/-- What doubled them is that the first enclosure was switched to the product of the second. -/
theorem twoEnclosures_switched :
    ∃ start s, ∃ store : Store, ∃ stages : Configuration.Stages,
      Session.load twoEnclosures .null = .ok start ∧ Run anyOutcome start s ∧
      store.display s.reference = .ok s.display ∧
      stages.Of s.catalog
        (store.overlay.revise s.catalog (store.configuration s.reference).location)
        (store.configuration s.reference) ∧
      (stages.Doubles ∨ stages.SharesDevice) := by
  obtain ⟨start, s, loaded, run, pairs⟩ := loaded_of_pairs twoEnclosures_pairs
  obtain ⟨store, stages, shown, of, exactly⟩ := rows_pairs_nodup_iff loaded run
  refine ⟨start, s, store, stages, loaded, run, shown, of, ?_⟩
  have doubled : ¬ (s.rows.map pair).Nodup := by
    rw [pairs]
    decide
  rw [exactly] at doubled
  exact or_iff_not_and_not.2 doubled

end Session

end WiringQuote
