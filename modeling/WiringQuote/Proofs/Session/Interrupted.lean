import WiringQuote.Proofs.Session.Answered
import WiringQuote.Proofs.Session.Fresh
import WiringQuote.Proofs.Session.SavedState

/-!
# Restoring that is broken off

A saved state is restored in steps, and each step replaces a part of the store. Where a step fails, or
where the restored store cannot be resolved, the parts that were replaced before stay replaced.

* `Stops`: where restoring is broken off, and the store that it leaves.
* `steps_inRange`: no step fails for numbers in the range of binary64.
* `restoreValue_stops`: what is left of a call that fails, and when that is the session before it.
* `twoLocations_halfRestored`: a call that leaves another session.
-/

namespace WiringQuote

open Decimal Fallible

/-! ## Steps that fail -/

/-- Steps end in a fault where one of them fails after those before it were carried out. -/
theorem StoreStep.run_error_iff {steps : List StoreStep} {store left : Store} {fault : Fault} :
    StoreStep.run steps store = (.error fault, left) ↔
      ∃ done step rest, steps = done ++ step :: rest ∧
        StoreStep.run done store = (.ok (), left) ∧ step left = .error fault := by
  constructor
  · intro ended
    induction steps generalizing store with
    | nil => cases ended
    | cons step rest ih =>
      rw [StoreStep.run] at ended
      split at ended
      · rename_i next carried
        obtain ⟨done, failing, others, rfl, before, fails⟩ := ih ended
        exact ⟨step :: done, failing, others, rfl, run_cons_ok_iff.2 ⟨next, carried, before⟩, fails⟩
      · rename_i fails
        cases ended
        exact ⟨[], step, rest, rfl, rfl, fails⟩
  · rintro ⟨done, step, rest, rfl, before, fails⟩
    rw [run_append before, StoreStep.run, fails]

/-! ## Numbers in range -/

/-- Binary64 reaches the parameters and the quantities of a state. -/
structure SavedState.InRange (saved : SavedState) : Prop where
  globals : ∀ entry ∈ saved.globals.entries, entry.2.InRange
  params : ∀ inst ∈ saved.instances, ∀ entry ∈ inst.params.entries, entry.2.InRange
  quantities : ∀ entry ∈ saved.quantities.entries, (Value.int entry.2).InRange

namespace SavedState

theorem inRange_float (x : Float) : (Value.float x).InRange := by
  intro n same
  cases same

theorem acceptValues_error {coerce : String → Value → Except ParameterFault Value}
    {defaults : Environment} {saved : OrderedMap String Value} {fault : Fault}
    (fails : acceptValues coerce defaults saved = .error fault) :
    ∃ entry ∈ saved.entries, coerce entry.1 entry.2 = .error (.arithmetic fault) := by
  obtain ⟨entry, listed, _, step⟩ := foldlM_error fails
  split at step
  · cases step
  · rename_i refused
    cases step
    exact ⟨entry, listed, refused⟩
  · cases step

theorem acceptEntries_error {α : Type} {clean : Value → Except OverrideFault α}
    {saved : List (String × Value)} {fault : Fault}
    (fails : acceptEntries clean saved = .error fault) :
    ∃ entry ∈ saved, clean entry.2 = .error (.arithmetic fault) := by
  obtain ⟨entry, listed, _, step⟩ := foldlM_error fails
  split at step
  · cases step
  · rename_i refused
    cases step
    exact ⟨entry, listed, refused⟩
  · cases step

theorem acceptRoles_error {clean : Value → Except OverrideFault Float}
    {saved : OrderedMap String Float} {fault : Fault}
    (fails : acceptRoles clean saved = .error fault) :
    ∃ x, clean (.float x) = .error (.arithmetic fault) := by
  obtain ⟨entry, _, _, step⟩ := foldlM_error fails
  split at step
  · cases step
  · split at step
    · cases step
    · rename_i refused
      cases step
      exact ⟨entry.2, refused⟩
    · cases step

theorem acceptHours_error {saved : OrderedMap String (OrderedMap String Float)} {fault : Fault}
    (fails : acceptHours saved = .error fault) :
    ∃ x, Override.hours (.float x) = .error (.arithmetic fault) := by
  obtain ⟨entry, _, _, step⟩ := foldlM_error fails
  rcases bind_error_iff.1 step with ofRoles | ⟨_, _, same⟩
  · exact acceptRoles_error ofRoles
  · cases same

/-- No step fails for a state in range. -/
theorem steps_inRange {saved : SavedState} (inRange : saved.InRange) {reference : Reference}
    {step : StoreStep} (listed : step ∈ saved.steps reference) (store : Store) (fault : Fault) :
    step store ≠ .error fault := by
  intro fails
  unfold steps at listed
  simp only [List.mem_append, List.mem_cons, List.mem_map, List.not_mem_nil, or_false] at listed
  -- The cases are the steps in their order.
  rcases listed with ((rfl | rfl | rfl) | ⟨inst, present, rfl⟩) | rfl | rfl | rfl | rfl | rfl | rfl | rfl
  · unfold restoreLocation at fails
    split at fails <;> cases fails
  · obtain ⟨entry, present, beyond⟩ := acceptValues_error (error_of_bind_pure fails)
    exact Catalog.coerceGlobal_inRange (inRange.globals entry present) _ beyond
  · cases fails
  · unfold restoreInstance at fails
    dsimp only at fails
    split at fails
    · obtain ⟨entry, listed, beyond⟩ := acceptValues_error (error_of_bind_pure fails)
      exact Catalog.coerceLocal_inRange (inRange.params inst present entry listed) _ _ beyond
    · cases fails
  · obtain ⟨entry, present, beyond⟩ := acceptEntries_error (error_of_bind_pure fails)
    obtain ⟨_, _, rfl⟩ := List.mem_map.1 present
    exact (Override.amount_checks _).noFault (inRange_float _) _ beyond
  · obtain ⟨entry, present, beyond⟩ := acceptEntries_error (error_of_bind_pure fails)
    obtain ⟨_, _, rfl⟩ := List.mem_map.1 present
    exact Override.markup_checks.noFault (inRange_float _) _ beyond
  · obtain ⟨entry, present, beyond⟩ := acceptEntries_error (error_of_bind_pure fails)
    obtain ⟨given, listed, rfl⟩ := List.mem_map.1 present
    exact Override.quantity_checks.noFault (inRange.quantities given listed) _ beyond
  · obtain ⟨x, beyond⟩ := acceptHours_error (error_of_bind_pure fails)
    exact (Override.amount_checks _).noFault (inRange_float x) _ beyond
  · obtain ⟨x, beyond⟩ := acceptRoles_error (error_of_bind_pure fails)
    exact (Override.amount_checks _).noFault (inRange_float x) _ beyond
  · cases fails
  · cases fails

/-! ## Where restoring is broken off -/

/-- Restoring a state over a store is broken off with a fault, and leaves another store: a step fails,
or all are carried out and the restored store cannot be resolved. -/
inductive Stops (reference : Reference) (saved : SavedState) (store left : Store) (fault : Fault) :
    Prop
  | step {done rest : List StoreStep} {step : StoreStep} :
      saved.steps reference = done ++ step :: rest →
      StoreStep.run done store = (.ok (), left) → step left = .error fault →
      Stops reference saved store left fault
  | display : StoreStep.run (saved.steps reference) store = (.ok (), left) →
      left.display reference = .error fault → Stops reference saved store left fault

/-- For a state in range, only resolving can fail, and the store is then that of the whole state. -/
theorem Stops.restored {reference : Reference} {saved : SavedState} {store left : Store}
    {fault : Fault} (stops : saved.Stops reference store left fault) (inRange : saved.InRange) :
    StoreStep.run (saved.steps reference) store = (.ok (), left) ∧
      left.display reference = .error fault := by
  cases stops with
  | display restored fails => exact ⟨restored, fails⟩
  | @step done rest step split _ fails =>
    have listed : step ∈ saved.steps reference := by
      rw [split]
      exact List.mem_append_right _ List.mem_cons_self
    exact absurd fails (steps_inRange inRange listed left fault)

end SavedState

namespace Session

variable {s after : Session}

theorem restore_of_stops {saved : SavedState} {left : Store} {fault : Fault}
    (stops : saved.Stops s.reference s.store left fault) :
    s.restore saved = (.error (.arithmetic fault), { s with store := left }) := by
  unfold restore
  cases stops with
  | step split before fails => rw [StoreStep.run_error_iff.2 ⟨_, _, _, split, before, fails⟩]
  | display restored fails =>
    rw [restored]
    unfold commit
    dsimp only
    rw [fails]

theorem stops_of_restore {saved : SavedState} {fault : SessionFault}
    (failed : s.restore saved = (.error fault, after)) :
    ∃ left f, fault = .arithmetic f ∧ after = { s with store := left } ∧
      saved.Stops s.reference s.store left f := by
  unfold restore at failed
  split at failed
  · rename_i store restored
    unfold commit at failed
    split at failed
    · cases failed
    · rename_i f fails
      cases failed
      exact ⟨store, f, rfl, rfl, .display restored fails⟩
  · rename_i f store ended
    cases failed
    obtain ⟨done, step, rest, split, before, fails⟩ := StoreStep.run_error_iff.1 ended
    exact ⟨store, f, rfl, rfl, .step split before fails⟩

/-- A call that fails leaves the session as it was exactly if the value is no saved state or restoring
is broken off before anything changes. It leaves the display in any case, and for a state in range it
fails only where the whole state is restored and cannot be resolved. -/
theorem restoreValue_stops {value : Value} {fault : SessionFault}
    (failed : s.restoreValue value = (.error fault, after)) :
    (after = s ↔ SavedState.ofValue? value = none ∨
      ∃ saved f, SavedState.ofValue? value = some saved ∧
        saved.Stops s.reference s.store s.store f) ∧
    (∃ left, after = { s with store := left }) ∧
    ∀ saved, SavedState.ofValue? value = some saved → saved.InRange →
      ∃ f, fault = .arithmetic f ∧
        StoreStep.run (saved.steps s.reference) s.store = (.ok (), after.store) ∧
        after.store.display s.reference = .error f := by
  cases read : SavedState.ofValue? value with
  | none =>
    rw [restoreValue_none read] at failed
    cases failed
    refine ⟨⟨fun _ => .inl rfl, fun _ => rfl⟩, ⟨s.store, rfl⟩, fun saved known => ?_⟩
    cases known
  | some saved =>
    rw [restoreValue_some read] at failed
    obtain ⟨left, f, rfl, rfl, stops⟩ := stops_of_restore failed
    refine ⟨⟨fun same => ?_, ?_⟩, ⟨left, rfl⟩, ?_⟩
    · have unchanged : left = s.store := congrArg Session.store same
      exact .inr ⟨saved, f, rfl, unchanged ▸ stops⟩
    · rintro (absent | ⟨other, g, known, unchanged⟩)
      · cases absent
      · cases known
        have again := restore_of_stops unchanged
        rw [failed] at again
        exact congrArg Prod.snd again
    · intro other known inRange
      cases known
      exact ⟨f, rfl, stops.restored inRange⟩

/-! ## A half restored session -/

/-- Another location, and a room beyond the range of binary64. -/
def enormousRoom : Value := .obj [
  ("location_id", .str "2"),
  ("instances", .list [.obj [("instance_id", .str "1-00000001"), ("package_id", .int 1),
    ("params", .obj [("raumgroesse", .int (10 ^ 400))])]])]

/-- The session after the first package is selected. -/
def withPackage (start : Session) : Session :=
  (start.write "00000001" (.selectPackage (.int 1))).2

theorem enormousRoom_moves : (Session.load twoLocations .null).toOption.map (fun start =>
    ((start.withPackage.restoreValue enormousRoom).1.isOk,
      (start.withPackage.restoreValue enormousRoom).2.store.location,
      start.withPackage.store.location)) = some (false, some "2", some "1") := by decide +kernel

theorem enormousRoom_fails : ∃ start fault, Session.load twoLocations .null = .ok start ∧
    (start.withPackage.restoreValue enormousRoom).1 = .error fault ∧
    (start.withPackage.restoreValue enormousRoom).2.store.location = some "2" ∧
    start.withPackage.store.location = some "1" := by
  obtain ⟨start, loaded, same⟩ := toOption_map_eq_some_iff.1 enormousRoom_moves
  obtain ⟨failed, same⟩ := Prod.mk.inj same
  obtain ⟨moved, stayed⟩ := Prod.mk.inj same
  cases outcome : (start.withPackage.restoreValue enormousRoom).1 with
  | error fault => exact ⟨start, fault, loaded, outcome, moved, stayed⟩
  | ok =>
    rw [outcome] at failed
    cases failed

/-- A room that is too large is refused after the location was replaced: the call fails, and leaves
another session. -/
theorem twoLocations_halfRestored : ∃ start s fault after,
    Session.load twoLocations .null = .ok start ∧ Run anyOutcome start s ∧
    s.restoreValue enormousRoom = (.error fault, after) ∧ after ≠ s := by
  obtain ⟨start, fault, loaded, failed, moved, stayed⟩ := enormousRoom_fails
  refine ⟨start, start.withPackage, fault, _, loaded, .write .refl trivial, Prod.ext failed rfl, ?_⟩
  intro same
  have both : some "1" = some "2" :=
    stayed.symm.trans ((congrArg (·.store.location) same).symm.trans moved)
  exact absurd both (by decide)

/-- It leaves the display, and what the steps before the fault made of the store. -/
theorem twoLocations_stopped : ∃ start fault after,
    Session.load twoLocations .null = .ok start ∧
    start.withPackage.restoreValue enormousRoom = (.error fault, after) ∧
    (after = start.withPackage ↔ SavedState.ofValue? enormousRoom = none ∨
      ∃ saved f, SavedState.ofValue? enormousRoom = some saved ∧
        saved.Stops start.withPackage.reference start.withPackage.store start.withPackage.store f) ∧
    (∃ left, after = { start.withPackage with store := left }) ∧
    ∀ saved, SavedState.ofValue? enormousRoom = some saved → saved.InRange →
      ∃ f, fault = .arithmetic f ∧
        StoreStep.run (saved.steps start.withPackage.reference) start.withPackage.store =
          (.ok (), after.store) ∧
        after.store.display start.withPackage.reference = .error f := by
  obtain ⟨start, fault, loaded, failed, _⟩ := enormousRoom_fails
  have call : start.withPackage.restoreValue enormousRoom = (.error fault, _) :=
    Prod.ext failed rfl
  exact ⟨start, fault, _, loaded, call, restoreValue_stops call⟩

end Session

end WiringQuote
