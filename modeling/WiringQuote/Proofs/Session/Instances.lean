import WiringQuote.Proofs.OrderedMap
import WiringQuote.Proofs.Session.Run

/-!
# Selected packages after a write

Only selecting a package and restoring a state bring packages into a store. Every other write leaves the
packages as they are, takes one away, or changes the parameters of one.

* `write_eachPackage`: what holds of the packages of a store and of those that a write brings, holds of the
  packages of the store after the write.
-/

namespace WiringQuote

open Fallible

/-- The property holds of every package: of the id under which it is selected and its own id. -/
def Store.EachPackage (p : String → Value → Prop) (store : Store) : Prop :=
  store.instances.Each fun id selection => p id selection.packageId

namespace Session

variable {s : Session} {store : Store}

/-! ## Plans that leave the packages -/

/-- The plan leaves the selected packages as they are. -/
def SparesInstances (s : Session) (plan : Except SessionFault Store) : Prop :=
  ∀ store, plan = .ok store → store.instances = s.store.instances

theorem sparesInstances_bind {α : Type} {x : Except SessionFault α}
    {f : α → Except SessionFault Store} (each : ∀ a, s.SparesInstances (f a)) :
    s.SparesInstances (x >>= f) := by
  intro store planned
  obtain ⟨a, _, planned⟩ := bind_ok_iff.1 planned
  exact each a store planned

theorem sparesInstances_ok {store : Store} (same : store.instances = s.store.instances) :
    s.SparesInstances (.ok store) := by
  rintro _ ⟨⟩
  exact same

theorem planPrice_spares (itemId value : Value) : s.SparesInstances (s.planPrice itemId value) :=
  sparesInstances_bind fun _ => sparesInstances_bind fun _ => sparesInstances_ok rfl

theorem planMarkup_spares (itemId value : Value) : s.SparesInstances (s.planMarkup itemId value) :=
  sparesInstances_bind fun _ => sparesInstances_bind fun _ => sparesInstances_ok rfl

theorem planHours_spares (itemId role value : Value) :
    s.SparesInstances (s.planHours itemId role value) :=
  sparesInstances_bind fun _ => sparesInstances_bind fun _ => by
    dsimp only
    split
    · exact sparesInstances_ok rfl
    · exact sparesInstances_bind fun _ => sparesInstances_ok rfl

theorem planQuantity_spares (itemId value : Value) :
    s.SparesInstances (s.planQuantity itemId value) :=
  sparesInstances_bind fun _ => sparesInstances_bind fun _ => sparesInstances_ok rfl

theorem planGlobal_spares (key value : Value) : s.SparesInstances (s.planGlobal key value) :=
  sparesInstances_bind fun _ => sparesInstances_ok rfl

theorem planLocation_spares (key : Value) : s.SparesInstances (s.planLocation key) :=
  sparesInstances_bind fun _ => sparesInstances_ok rfl

theorem planRemoveItem_spares (itemId : Value) : s.SparesInstances (s.planRemoveItem itemId) :=
  sparesInstances_bind fun _ => sparesInstances_ok rfl

theorem planSwap_spares (itemId productKey : Value) :
    s.SparesInstances (s.planSwap itemId productKey) :=
  sparesInstances_bind fun _ => sparesInstances_bind fun _ => sparesInstances_bind fun _ =>
    sparesInstances_ok rfl

theorem planWage_spares (role value : Value) : s.SparesInstances (s.planWage role value) :=
  sparesInstances_bind fun _ => by
    dsimp only
    split
    · exact sparesInstances_ok rfl
    · exact sparesInstances_bind fun _ => sparesInstances_ok rfl

/-! ## Packages that come and go -/

section Packages

variable {p : String → Value → Prop} (each : s.store.EachPackage p)

include each

theorem SparesInstances.eachPackage {plan : Except SessionFault Store}
    (spares : s.SparesInstances plan) : ∀ store, plan = .ok store → store.EachPackage p := by
  intro store planned
  unfold Store.EachPackage
  rw [spares store planned]
  exact each

theorem planSelect_eachPackage {packageId : Value} {tag : String}
    (own : p (instanceId packageId tag) packageId)
    (planned : s.planSelect packageId tag = .ok store) : store.EachPackage p := by
  unfold planSelect at planned
  obtain ⟨selection, made, same⟩ := bind_ok_iff.1 planned
  cases same
  rw [(newSelection_ok made).2]
  exact OrderedMap.Each.insert each own

theorem planRemoveInstance_eachPackage {key : Value}
    (planned : s.planRemoveInstance key = .ok store) : store.EachPackage p := by
  unfold planRemoveInstance at planned
  obtain ⟨id, _, same⟩ := bind_ok_iff.1 planned
  cases same
  exact OrderedMap.Each.erase each id

theorem planLocal_eachPackage {instanceKey key value : Value}
    (planned : s.planLocal instanceKey key value = .ok store) : store.EachPackage p := by
  unfold planLocal at planned
  obtain ⟨⟨id, selection⟩, found, planned⟩ := bind_ok_iff.1 planned
  obtain ⟨_, _, same⟩ := bind_ok_iff.1 planned
  cases same
  exact OrderedMap.Each.insert each (each id selection (selectionAt_ok found).2)

end Packages

/-- Restoring replaces the packages by saved ones. -/
theorem steps_eachPackage {p : String → Value → Prop} {reference : Reference} {saved : SavedState}
    (own : ∀ inst ∈ saved.instances, p inst.id (.int inst.packageId)) :
    ∀ step ∈ saved.steps reference, ∀ store next, Store.EachPackage p store →
      step store = .ok next → next.EachPackage p := by
  intro step listed store next each done
  unfold SavedState.steps at listed
  simp only [List.mem_append, List.mem_cons, List.mem_map, List.not_mem_nil, or_false] at listed
  rcases listed with ((rfl | rfl | rfl) | ⟨inst, present, rfl⟩) | rfl | rfl | rfl | rfl | rfl | rfl | rfl
  · unfold SavedState.restoreLocation at done
    split at done <;> cases done <;> exact each
  · obtain ⟨_, _, same⟩ := bind_ok_iff.1 done
    cases same
    exact each
  · cases done
    exact OrderedMap.each_empty _
  · unfold SavedState.restoreInstance at done
    dsimp only at done
    split at done
    · obtain ⟨_, _, same⟩ := bind_ok_iff.1 done
      cases same
      exact OrderedMap.Each.insert each (own inst present)
    · cases done
      exact each
  -- The cleaned settings: five steps that leave the selected packages alone.
  iterate 5
    · obtain ⟨_, _, same⟩ := bind_ok_iff.1 done
      cases same
      exact each
  · cases done
    exact each
  · cases done
    exact each

/-- What holds of the packages of a store and of those that a write brings, holds of the packages of the
store after the write, whatever its outcome. -/
theorem write_eachPackage {p : String → Value → Prop} (each : s.store.EachPackage p) (tag : String)
    {w : Write} (selects : ∀ id, w = .selectPackage id → p (instanceId id tag) id)
    (restores : ∀ saved, w = .restore saved →
      ∀ inst ∈ saved.instances, p inst.id (.int inst.packageId)) :
    (s.write tag w).2.store.EachPackage p := by
  rw [write_eq]
  cases w with
  | selectPackage id =>
    exact carryOut_keeps each fun _ => planSelect_eachPackage each (selects id rfl)
  | removeInstance id => exact carryOut_keeps each fun _ => planRemoveInstance_eachPackage each
  | setGlobal key value => exact carryOut_keeps each ((planGlobal_spares key value).eachPackage each)
  | setLocal id key value => exact carryOut_keeps each fun _ => planLocal_eachPackage each
  | setLocation id => exact carryOut_keeps each ((planLocation_spares id).eachPackage each)
  | setPrice id value => exact carryOut_keeps each ((planPrice_spares id value).eachPackage each)
  | setMarkup id value => exact carryOut_keeps each ((planMarkup_spares id value).eachPackage each)
  | setHours id role value =>
    exact carryOut_keeps each ((planHours_spares id role value).eachPackage each)
  | setQuantity id value =>
    exact carryOut_keeps each ((planQuantity_spares id value).eachPackage each)
  | swap id product => exact carryOut_keeps each ((planSwap_spares id product).eachPackage each)
  | removeItem id => exact carryOut_keeps each ((planRemoveItem_spares id).eachPackage each)
  | setWage role value => exact keep_keeps each ((planWage_spares role value).eachPackage each)
  | restore saved => exact restore_keeps each (steps_eachPackage (restores saved rfl))

end Session

end WiringQuote
