import WiringQuote.Proofs.Session.Plans
import WiringQuote.Session.Source

/-!
# Runs of writes

A `Run` is any number of writes in any order, each with its outcome. `Run.keeps` turns what one write
keeps into what a run keeps.

* `StoreStep.run_append_ok_iff`: steps are carried out one part after the other.
* `write_moves`: what a write does to a session. The reference data stays, and the display is the old
  one or that of some store.
* `write_displaysOf`, `run_displays`: the display of a reached session is that of some store.
-/

namespace WiringQuote

open Fallible

/-- What each step keeps is kept up to the first fault. -/
theorem StoreStep.run_keeps {holds : Store → Prop} {steps : List StoreStep}
    (each : ∀ step ∈ steps, ∀ store next, holds store → step store = .ok next → holds next)
    {store : Store} (start : holds store) : holds (StoreStep.run steps store).2 := by
  induction steps generalizing store with
  | nil => exact start
  | cons step rest ih =>
    unfold StoreStep.run
    split
    · rename_i next done
      exact ih (fun other inRest => each other (List.mem_cons_of_mem _ inRest))
        (each step List.mem_cons_self store next start done)
    · exact start

theorem StoreStep.run_cons_ok_iff {step : StoreStep} {rest : List StoreStep} {store final : Store} :
    StoreStep.run (step :: rest) store = (.ok (), final) ↔
      ∃ next, step store = .ok next ∧ StoreStep.run rest next = (.ok (), final) := by
  rw [StoreStep.run]
  cases step store <;> simp

/-- Once the first steps are carried out, the others go on from what they leave. -/
theorem StoreStep.run_append {first second : List StoreStep} {store middle : Store}
    (carried : StoreStep.run first store = (.ok (), middle)) :
    StoreStep.run (first ++ second) store = StoreStep.run second middle := by
  induction first generalizing store with
  | nil =>
    cases carried
    rfl
  | cons step rest ih =>
    obtain ⟨next, done, others⟩ := StoreStep.run_cons_ok_iff.1 carried
    rw [List.cons_append, StoreStep.run, done]
    exact ih others

theorem StoreStep.run_append_ok_iff {first second : List StoreStep} {store final : Store} :
    StoreStep.run (first ++ second) store = (.ok (), final) ↔
      ∃ middle, StoreStep.run first store = (.ok (), middle) ∧
        StoreStep.run second middle = (.ok (), final) := by
  constructor
  · intro all
    induction first generalizing store with
    | nil => exact ⟨store, rfl, all⟩
    | cons step rest ih =>
      obtain ⟨next, done, others⟩ := StoreStep.run_cons_ok_iff.1 all
      obtain ⟨middle, before, after⟩ := ih others
      exact ⟨middle, StoreStep.run_cons_ok_iff.2 ⟨next, done, before⟩, after⟩
  · rintro ⟨middle, before, after⟩
    exact (StoreStep.run_append before).trans after

namespace Session

/-- `Run allows start s`: some writes with outcomes that are allowed lead from `start` to `s`. -/
inductive Run (allows : Write → Except SessionFault Unit → Prop) (start : Session) :
    Session → Prop
  | refl : Run allows start start
  | write {s : Session} {tag : String} {w : Write} : Run allows start s →
      allows w (s.write tag w).1 → Run allows start (s.write tag w).2

/-- Every outcome is allowed. -/
def anyOutcome (_ : Write) (_ : Except SessionFault Unit) : Prop := True

variable {allows : Write → Except SessionFault Unit → Prop} {start s : Session}

/-- What each allowed write keeps, a run keeps. -/
theorem Run.keeps (holds : Session → Prop) (run : Run allows start s) (first : holds start)
    (step : ∀ s tag w, holds s → allows w (s.write tag w).1 → holds (s.write tag w).2) :
    holds s := by
  induction run with
  | refl => exact first
  | write _ allowed ih => exact step _ _ _ ih allowed

theorem Run.mono {other : Write → Except SessionFault Unit → Prop} (run : Run allows start s)
    (weaker : ∀ w outcome, allows w outcome → other w outcome) : Run other start s := by
  induction run with
  | refl => exact .refl
  | write _ allowed ih => exact .write ih (weaker _ _ allowed)

/-! ## One write -/

/-- What a write that ends in a store may make of a session. -/
inductive Moves (s : Session) : Written → Prop
  /-- Refused: nothing changes. -/
  | refused (fault : SessionFault) : Moves s (.error fault, s)
  /-- The store is taken over and shown. -/
  | shown {store : Store} {display : Display} : store.display s.reference = .ok display →
      Moves s (.ok (), { s with store, display })
  /-- The store is taken over, or some of it, and the display stays. -/
  | unshown (store : Store) (fault : Decimal.Fault) :
      Moves s (.error (.arithmetic fault), { s with store })
  /-- Only wages change, which show in no row. -/
  | wages (wages : PerRole (Option Float)) :
      Moves s (.ok (), { s with store := { s.store with wages } })

theorem commit_moves (s : Session) (store : Store) : Moves s (s.commit store) := by
  unfold commit
  split
  · rename_i display shown
    exact .shown shown
  · exact .unshown store _

theorem carryOut_moves (s : Session) (plan : Except SessionFault Store) :
    Moves s (s.carryOut plan) := by
  cases plan with
  | ok store => exact commit_moves s store
  | error fault => exact .refused fault

theorem restore_moves (s : Session) (saved : SavedState) : Moves s (s.restore saved) := by
  unfold restore
  split
  · exact commit_moves s _
  · exact .unshown _ _

theorem keepWage_moves (s : Session) (role value : Value) :
    Moves s (s.keep (s.planWage role value)) := by
  cases planned : s.planWage role value with
  | ok store =>
    unfold planWage at planned
    obtain ⟨_, _, planned⟩ := bind_ok_iff.1 planned
    split at planned
    · cases planned
      exact .wages _
    · obtain ⟨_, _, same⟩ := bind_ok_iff.1 planned
      cases same
      exact .wages _
  | error fault => exact .refused fault

theorem write_moves (s : Session) (tag : String) (w : Write) : Moves s (s.write tag w) := by
  rw [write_eq]
  cases w with
  | setWage role value => exact keepWage_moves s role value
  | restore saved => exact restore_moves s saved
  | _ => exact carryOut_moves s _

/-- A write that is carried out shows the planned store. -/
theorem carryOut_ok {t : Session} {plan : Except SessionFault Store}
    (done : s.carryOut plan = (.ok (), t)) :
    ∃ store, plan = .ok store ∧ store.display s.reference = .ok t.display ∧
      t = { s with store, display := t.display } := by
  unfold carryOut at done
  split at done
  · rename_i store
    unfold commit at done
    split at done
    · rename_i display shows
      cases done
      exact ⟨store, rfl, shows, rfl⟩
    · cases done
  · cases done

theorem done_of_isOk {written : Written} (done : written.1.isOk = true) :
    ∃ t, written = (.ok (), t) := by
  obtain ⟨_, same⟩ := isOk_iff.1 done
  exact ⟨written.2, Prod.ext same rfl⟩

theorem write_reference (s : Session) (tag : String) (w : Write) :
    (s.write tag w).2.reference = s.reference := by
  have moves := write_moves s tag w
  generalize s.write tag w = written at moves
  cases moves <;> rfl

theorem run_reference (run : Run allows start s) : s.reference = start.reference :=
  run.keeps (·.reference = start.reference) rfl
    fun s tag w same _ => (write_reference s tag w).trans same

/-! ## What is kept -/

section Keeping

variable {holds : Store → Prop} (old : holds s.store)

include old

/-- What a store has and every planned one has, the store after the write has. -/
theorem carryOut_keeps {plan : Except SessionFault Store}
    (planned : ∀ store, plan = .ok store → holds store) : holds (s.carryOut plan).2.store := by
  cases plan with
  | error fault => exact old
  | ok store =>
    unfold carryOut commit
    dsimp only
    split <;> exact planned store rfl

theorem keep_keeps {plan : Except SessionFault Store}
    (planned : ∀ store, plan = .ok store → holds store) : holds (s.keep plan).2.store := by
  cases plan with
  | error fault => exact old
  | ok store => exact planned store rfl

theorem restore_keeps {saved : SavedState}
    (each : ∀ step ∈ saved.steps s.reference, ∀ store next, holds store → step store = .ok next →
      holds next) : holds (s.restore saved).2.store := by
  have kept := StoreStep.run_keeps each old
  unfold restore
  generalize StoreStep.run (saved.steps s.reference) s.store = ended at kept
  obtain ⟨_ | _, store⟩ := ended
  · exact kept
  · unfold commit
    dsimp only
    split <;> exact kept

end Keeping

/-! ## What is shown -/

/-- The display is that of some store with the property. -/
def DisplaysOf (holds : Store → Prop) (s : Session) : Prop :=
  ∃ store : Store, holds store ∧ store.display s.reference = .ok s.display

/-- The display is that of some store. -/
def Displays (s : Session) : Prop := ∃ store : Store, store.display s.reference = .ok s.display

/-- A write shows the store that it leaves, or what was shown before. -/
theorem write_displaysOf {holds : Store → Prop} (displays : s.DisplaysOf holds) {tag : String}
    {w : Write} (kept : holds (s.write tag w).2.store) : (s.write tag w).2.DisplaysOf holds := by
  have moves := write_moves s tag w
  generalize s.write tag w = written at moves kept
  cases moves with
  | refused | unshown | wages => exact displays
  | shown shows => exact ⟨_, kept, shows⟩

/-- A loaded session has the data of its source, and a new store that is shown. -/
theorem load_ok {source : Source} {asked : Value} (loaded : Session.load source asked = .ok s) :
    ∃ catalog location, source.catalog = .ok catalog ∧ s.reference = source.reference catalog ∧
      s.store = Store.initial s.reference location ∧
      s.store.display s.reference = .ok s.display := by
  unfold Session.load at loaded
  obtain ⟨catalog, read, loaded⟩ := bind_ok_iff.1 loaded
  split at loaded
  · cases loaded
  · generalize (if asked.isNull then source.currentLocation else asked) = location at loaded
    dsimp only at loaded
    split at loaded
    · cases loaded
    · unfold Session.start at loaded
      rw [mapError_ok_iff] at loaded
      obtain ⟨display, shown, same⟩ := bind_ok_iff.1 loaded
      cases same
      exact ⟨catalog, _, read, rfl, rfl, shown⟩

theorem load_displays {source : Source} {asked : Value}
    (loaded : Session.load source asked = .ok s) :
    s.store.display s.reference = .ok s.display := by
  obtain ⟨_, _, _, _, _, shown⟩ := load_ok loaded
  exact shown

/-- The display of a reached session is that of some store. -/
theorem run_displays {source : Source} {asked : Value}
    (loaded : Session.load source asked = .ok start) (run : Run allows start s) : s.Displays := by
  obtain ⟨store, _, shown⟩ : s.DisplaysOf fun _ => True :=
    run.keeps _ ⟨start.store, trivial, load_displays loaded⟩ fun _ _ _ displays _ =>
      write_displaysOf displays trivial
  exact ⟨store, shown⟩

end Session

end WiringQuote
