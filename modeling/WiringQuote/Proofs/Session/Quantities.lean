import WiringQuote.Proofs.Session.Canonical
import WiringQuote.Proofs.Session.Shown

/-!
# Every row has a unit

Rules and devices without a positive quantity make no row, a set quantity is at least one, and rows that
are merged add up. So every row is of whole units, at least one, at each stage.

* `ofRule_filled`: a rule with a positive quantity makes a row of at least one unit.
* `required_positive`: the devices that rows of whole units require.
* `run_filled`: the rows that a session displays after any writes, whatever their outcomes.
-/

namespace WiringQuote

open Decimal Fallible LineItem

/-! ## Rows -/

namespace LineItem

/-- The row is of whole units, at least one. -/
def Filled (row : LineItem) : Prop := ∃ n : Int, 1 ≤ n ∧ row.quantity = .int n

theorem keptByMerge_filled : KeptByMerge Filled := by
  rintro target other row ⟨m, least, quantity⟩ ⟨n, _, otherQuantity⟩ merged
  obtain ⟨_, added⟩ := merge_adds merged
  rw [quantity, otherQuantity] at added
  exact ⟨m + n, by omega, (Except.ok.inj added).symm⟩

/-- A rule with a positive quantity makes a row of at least one unit. -/
theorem ofRule_filled {catalog : Catalog} {preference : Preference} {resolved : ResolvedRule}
    {product : Product} {row : LineItem}
    (selected : selected? catalog preference resolved = some product)
    (made : ofRule (catalog.package? resolved.packageId) resolved product = .ok row) : row.Filled := by
  obtain ⟨_, _, _, _, n, rounded, quantity⟩ := ofRule_ok made
  exact ⟨n, one_le_roundQuantity (above_of_selected selected) rounded, quantity⟩

end LineItem

/-! ## Devices -/

namespace Consumers

/-- All consumers are counted in whole numbers. -/
def Counted (consumers : Consumers) : Prop :=
  ∃ sockets lights stoves : Int, consumers = ⟨.int sockets, .int lights, .int stoves⟩

theorem addItem_counted {consumers next : Consumers} {item : LineItem} (counted : consumers.Counted)
    (filled : item.Filled) (added : consumers.addItem item = .ok next) : next.Counted := by
  obtain ⟨sockets, lights, stoves, rfl⟩ := counted
  obtain ⟨n, _, quantity⟩ := filled
  unfold addItem at added
  rw [quantity] at added
  split at added
  · cases added
    exact ⟨_, _, _, rfl⟩
  · split at added
    · cases added
      exact ⟨_, _, _, rfl⟩
    · -- The kinds of consumers, in their order.
      iterate 4
        split at added
        · cases added
          exact ⟨_, _, _, rfl⟩
      cases added
      exact ⟨_, _, _, rfl⟩

theorem ofItems_counted {items : List LineItem} {consumers : Consumers}
    (filled : ∀ item ∈ items, item.Filled) (summed : ofItems items = .ok consumers) :
    consumers.Counted :=
  foldlM_induction summed ⟨0, 0, 0, rfl⟩ fun item listed _ _ counted added =>
    addItem_counted counted (filled item listed) added

end Consumers

namespace Protection

/-- Each required device comes in whole units, at least one. -/
theorem required_positive {consumers : Consumers} {devices : List (String × Number)}
    (counted : consumers.Counted) (listed : required consumers = .ok devices) :
    ∀ device ∈ devices, ∃ n : Int, 1 ≤ n ∧ device.2 = .int n := by
  obtain ⟨sockets, lights, stoves, rfl⟩ := counted
  unfold required devicesFor at listed
  obtain ⟨forSockets, _, listed⟩ := bind_ok_iff.1 listed
  obtain ⟨forLights, _, listed⟩ := bind_ok_iff.1 listed
  obtain ⟨total, _, listed⟩ := bind_ok_iff.1 listed
  obtain ⟨residual, _, same⟩ := bind_ok_iff.1 listed
  cases same
  intro device present
  obtain ⟨kind, positive⟩ := List.mem_filter.1 present
  have whole : ∃ n, device.2 = .int n := by
    simp only [List.mem_cons, List.not_mem_nil, or_false] at kind
    rcases kind with rfl | rfl | rfl | rfl | rfl <;> exact ⟨_, rfl⟩
  obtain ⟨n, own⟩ := whole
  rw [own] at positive
  exact ⟨n, of_decide_eq_true positive, own⟩

end Protection

/-! ## Displays -/

namespace Store

variable {reference : Reference} {store : Store}

/-- A set quantity is at least one. -/
theorem preserves_filled (canonical : store.Canonical reference) :
    store.Preserves reference Filled where
  merge := keptByMerge_filled
  switch item product row filled _ switched := by
    obtain ⟨_, _, rfl⟩ := withProduct_ok switched
    exact filled
  quantity item n row _ found counted := by
    obtain ⟨_, rfl⟩ := withQuantity_ok counted
    exact ⟨n, canonical.quantities _ _ found, rfl⟩
  value _ filled := filled

theorem makes_filled (reference : Reference) (store : Store) : store.Makes reference Filled where
  rule _ _ _ _ _ _ selected made := ofRule_filled selected made
  device items consumers devices device product row filled summed required listed _ made := by
    obtain ⟨n, least, quantity⟩ := Protection.required_positive
      (Consumers.ofItems_counted filled summed) required device listed
    exact ⟨n, least, (make_fields made).2.1.trans quantity⟩

end Store

namespace Session

variable {start s : Session}

/-- Every row that a session displays after any writes, carried out, refused or broken off, is of whole
units, at least one. -/
theorem run_filled {source : Source} {asked : Value}
    (loaded : Session.load source asked = .ok start) (run : Run anyOutcome start s) :
    ∀ row ∈ s.rows, ∃ n : Int, 1 ≤ n ∧ row.quantity = .int n := by
  obtain ⟨store, valid, shows⟩ := run_displaysValid loaded run
  exact (Store.preserves_filled valid.canonical).shown (store.makes_filled s.reference) shows

/-- A saved package, with quantities that no user could set for two of its rows. -/
def lowQuantities : SavedState where
  location := none
  globals := .empty
  instances := [⟨"board", 1, .empty⟩]
  prices := .empty
  markups := .empty
  hours := .empty
  quantities := .ofList [("board-SKT", 9), ("board-UV-24", 0), ("schutzorgane-MCB16", -3)]
  swaps := .empty
  removed := []
  wages := .empty

/-- A refused quantity, then the saved package. -/
def lowWrites : List (String × Write) := [
  ("00000001", .selectPackage (.int 1)),
  ("", .setQuantity (.str "1-00000001-SKT") (.int 0)),
  ("", .restore lowQuantities)]

theorem lowWrites_quantities : (Session.load twoEnclosures .null).toOption.map (fun start =>
    (start.after lowWrites).rows.map fun row => (row.id, row.quantity)) =
    some [("board-SKT", .int 9), ("board-UV-24", .int 1), ("board-UV-12", .int 1),
      ("schutzorgane-MCB16", .int 2)] := by decide +kernel

/-- The rows of the saved package are of one unit where the saved quantity is none. -/
theorem lowWrites_filled : ∃ start s, Session.load twoEnclosures .null = .ok start ∧
    Run anyOutcome start s ∧ s.rows.map (·.id) =
      ["board-SKT", "board-UV-24", "board-UV-12", "schutzorgane-MCB16"] ∧
    ∀ row ∈ s.rows, ∃ n : Int, 1 ≤ n ∧ row.quantity = .int n := by
  obtain ⟨start, loaded, quantities⟩ := toOption_map_eq_some_iff.1 lowWrites_quantities
  have run : Run anyOutcome start (start.after lowWrites) := run_after .refl _
  have ids := congrArg (List.map Prod.fst) quantities
  rw [List.map_map] at ids
  exact ⟨start, _, loaded, run, ids, run_filled loaded run⟩

end Session

end WiringQuote
