import WiringQuote.Proofs.Session.Fresh
import WiringQuote.Proofs.Session.Instances
import WiringQuote.Proofs.Session.Restore
import WiringQuote.Proofs.Session.SavedState

/-!
# Saving and restoring a session

* `restore_saved`: a new session that restores what a reached one saved holds and shows the same, and
  saves the same again.
-/

namespace WiringQuote

open Fallible

namespace Session

/-! ## Ids of packages -/

/-- A settled write that selects packages by whole numbers only. -/
def settledWhole (w : Write) (outcome : Except SessionFault Unit) : Prop :=
  settled w outcome ∧ ∀ id, w = .selectPackage id → ∃ n, id = .int n

variable {start s : Session}

theorem write_whole (whole : s.store.WholeIds) (tag : String) {w : Write}
    (selects : ∀ id, w = .selectPackage id → ∃ n, id = .int n) :
    (s.write tag w).2.store.WholeIds :=
  write_eachPackage (p := fun _ packageId => ∃ n, packageId = .int n) whole tag selects
    fun _ _ _ _ => ⟨_, rfl⟩

/-- The packages of a reached session have whole numbers for their ids. -/
theorem run_whole {source : Source} {asked : Value}
    (loaded : Session.load source asked = .ok start) (run : Run settledWhole start s) :
    s.store.WholeIds := by
  refine run.keeps (·.store.WholeIds) ?_ fun s tag w whole allowed => write_whole whole tag allowed.2
  obtain ⟨_, _, _, _, store, _⟩ := load_ok loaded
  show start.store.WholeIds
  rw [store]
  exact OrderedMap.each_empty _

/-! ## Round trips -/

/-- Sessions that are loaded from one source have the same reference data. -/
theorem load_reference {source : Source} {asked other : Value} {fresh : Session}
    (loaded : Session.load source asked = .ok start)
    (again : Session.load source other = .ok fresh) : fresh.reference = start.reference := by
  obtain ⟨catalog, _, read, reference, _, _⟩ := load_ok loaded
  obtain ⟨same, _, readAgain, referenceAgain, _, _⟩ := load_ok again
  rw [read] at readAgain
  cases readAgain
  rw [reference, referenceAgain]

/-- A session without a location is loaded from reference data without locations. -/
theorem unplaced_fresh {reference : Reference} {store begun : Store}
    (valid : store.Valid reference) (other : begun.Valid reference) :
    store.location = none → begun.location = none := by
  intro unplaced
  cases placed : begun.location with
  | none => rfl
  | some id =>
    have known := OrderedMap.contains_iff.1 (other.location id placed)
    rw [valid.unplaced unplaced] at known
    cases known

/-- After settled writes the saved state of a session is read back as it was written. A new session
over the same source that restores it ends with the same store, up to the order of the removed rows,
shows the same rows and diagnostics, has the same totals, and saves the same state again. -/
theorem restore_saved {source : Source} {asked other : Value} {fresh : Session}
    (loaded : Session.load source asked = .ok start) (run : Run settledWhole start s)
    (named : start.reference.locations.contains "" = false)
    (again : Session.load source other = .ok fresh) (tag : String) :
    SavedState.ofValue? s.store.saved.toValue = some s.store.saved ∧
    ∃ restored, fresh.write tag (.restore s.store.saved) = (.ok (), restored) ∧
      restored.reference = s.reference ∧
      restored.store = { s.store with overlay := { s.store.overlay with
        removed := restored.store.overlay.removed } } ∧
      restored.store.overlay.removed.Perm s.store.overlay.removed ∧
      restored.display = s.display ∧
      (∀ scope key, restored.totals scope key = s.totals scope key) ∧
      restored.store.saved = s.store.saved := by
  have sameData : fresh.reference = s.reference := by
    rw [load_reference loaded again, run_reference run]
  have valid := (run_valid loaded run).2
  have begun := (run_valid again (.refl : Run anyOutcome fresh fresh)).2
  rw [sameData] at begun
  have shown := run_fresh loaded (run.mono fun _ _ allowed => allowed.1)
  rw [← run_reference run] at named
  have restores := SavedState.run_steps_saved valid (run_whole loaded run) named
    (unplaced_fresh valid begun) begun.rates
  have display : s.store.sorted.display s.reference = .ok s.display := by
    rw [Store.display_congr (Store.sorted_agrees s.store) rfl, shown]
  have written : fresh.write tag (.restore s.store.saved) =
      (.ok (), { fresh with store := s.store.sorted, display := s.display }) := by
    rw [write_eq]
    show fresh.restore s.store.saved = _
    unfold restore commit
    rw [sameData, restores]
    dsimp only
    rw [display]
  refine ⟨SavedState.ofValue?_toValue s.store.saved, _, written, sameData, rfl,
    SavedState.sortedTexts_perm _, rfl, ?_, Store.saved_sorted s.store⟩
  exact totals_congr sameData (Store.sorted_agrees s.store) rfl

theorem someWrites_whole : ∀ tagged ∈ someWrites, ∀ id, tagged.2 = .selectPackage id →
    ∃ n, id = .int n := by
  intro tagged listed id same
  simp only [someWrites, List.mem_cons, List.not_mem_nil, or_false] at listed
  rcases listed with rfl | rfl | rfl | rfl | rfl | rfl | rfl | rfl <;> cases same
  exact ⟨1, rfl⟩

theorem twoLocations_named : (Session.load twoLocations .null).toOption.map (fun start =>
    (start.settles someWrites, start.reference.locations.contains "",
      (start.after someWrites).store.saved.prices.keys)) =
      some (true, false, ["1-00000001-PRE"]) := by decide +kernel

theorem twoLocations_again : (Session.load twoLocations (.str "1")).isOk = true := by
  decide +kernel

/-- A price, hours, a quantity, a wage and the other location, saved and restored. -/
theorem twoLocations_restored : ∃ start s fresh restored,
    Session.load twoLocations .null = .ok start ∧ Run settledWhole start s ∧
    start.reference.locations.contains "" = false ∧
    Session.load twoLocations (.str "1") = .ok fresh ∧
    s.store.saved.prices.keys = ["1-00000001-PRE"] ∧
    fresh.write "" (.restore s.store.saved) = (.ok (), restored) ∧
    restored.display = s.display ∧ restored.store.saved = s.store.saved := by
  obtain ⟨start, loaded, facts⟩ := toOption_map_eq_some_iff.1 twoLocations_named
  obtain ⟨settles, facts⟩ := Prod.mk.inj facts
  obtain ⟨named, prices⟩ := Prod.mk.inj facts
  obtain ⟨fresh, again⟩ := isOk_iff.1 twoLocations_again
  have run : Run settledWhole start _ := run_of_settles
    (fun tagged listed _ settled => ⟨settled, someWrites_whole tagged listed⟩) .refl settles
  obtain ⟨_, restored, written, _, _, _, display, _, saved⟩ :=
    restore_saved loaded run named again ""
  exact ⟨start, _, fresh, restored, loaded, run, named, again, prices, written, display, saved⟩

end Session

end WiringQuote
