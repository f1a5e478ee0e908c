import WiringQuote.Proofs.Session.Fresh

/-!
# Rejected calls

A write makes all its checks before its first change, and no step from the first change on is ever
rejected.

* `rejectsFirst_check`, `NeverRejects.bind`: what a check and the other steps contribute to this.
* `change_check_rejectsFirst_iff`: a check that comes after a change is too late.
* `action_rejectsFirst`: the steps of every write are in the right order.
* `after_unrejected`: a history ends in the same session without its rejected writes.
* `rejected_unchanged`: rejected calls leave a reached session, in which no row has an empty entry.
-/

namespace WiringQuote

open Fallible

/-- A rejection: a refusal, or a saved state of the wrong form. The other faults are a number beyond
what can be computed, a key that no mapping can have, and faults of calls that only read. -/
def SessionFault.isRejection : SessionFault → Bool
  | .invalidState => true
  | fault => fault.isRefusal

namespace Action

variable {α β : Type}

/-- The action may be rejected only as long as the session is what it was. -/
def RejectsFirst (act : Action α) : Prop :=
  ∀ s fault after, act.run s = (.error fault, after) → fault.isRejection = true → after = s

/-- The action is not rejected for any session. -/
def NeverRejects (act : Action α) : Prop :=
  ∀ s fault after, act.run s = (.error fault, after) → fault.isRejection = false

/-! ## Steps -/

theorem NeverRejects.rejectsFirst {act : Action α} (never : act.NeverRejects) : act.RejectsFirst := by
  intro s fault after failed rejected
  rw [never s fault after failed] at rejected
  cases rejected

theorem NeverRejects.bind {act : Action α} {next : α → Action β} (first : act.NeverRejects)
    (rest : ∀ a, (next a).NeverRejects) : (act >>= next).NeverRejects := by
  intro s fault after failed
  obtain early | ⟨a, middle, _, late⟩ := run_bind_error_iff.1 failed
  · exact first s fault after early
  · exact rest a middle fault after late

/-- A check changes nothing, so what follows may still be rejected. -/
theorem rejectsFirst_check {ask : Session → Except SessionFault α} {next : α → Action β}
    (each : ∀ a, (next a).RejectsFirst) : (check ask >>= next).RejectsFirst := by
  intro s fault after failed rejected
  obtain refused | ⟨a, middle, passed, failed⟩ := run_bind_error_iff.1 failed
  · exact (congrArg Prod.snd refused).symm
  · have unchanged : s = middle := congrArg Prod.snd passed
    rw [unchanged]
    exact each a middle fault after failed rejected

/-- A check that comes after a change is too late, unless it rejects only where the change left the store
as it was. -/
theorem change_check_rejectsFirst_iff {f : Store → Store} {ask : Session → Except SessionFault α} :
    (change f >>= fun _ => check ask).RejectsFirst ↔ ∀ (s : Session) fault,
      ask { s with store := f s.store } = .error fault → fault.isRejection = true →
        f s.store = s.store := by
  constructor
  · intro first s fault refuses rejected
    have failed : (change f >>= fun _ => check ask).run s =
        (.error fault, { s with store := f s.store }) :=
      run_bind_error_iff.2 (.inr ⟨(), _, rfl, congrArg (·, _) refuses⟩)
    exact congrArg Session.store (first s fault _ failed rejected)
  · intro idle s fault after failed rejected
    obtain early | ⟨_, middle, changed, refused⟩ := run_bind_error_iff.1 failed
    · cases early
    · cases changed
      have refuses : ask { s with store := f s.store } = .error fault := congrArg Prod.fst refused
      have left : { s with store := f s.store } = after := congrArg Prod.snd refused
      rw [← left, idle s fault refuses rejected]

theorem neverRejects_change (f : Store → Store) : (change f).NeverRejects := by
  intro s fault after failed
  cases failed

theorem neverRejects_changeOverlay (f : Overlay → Overlay) : (changeOverlay f).NeverRejects :=
  neverRejects_change _

theorem neverRejects_checkRates : checkRates.NeverRejects := by
  intro s fault after failed
  cases failed

/-- A store may be beyond what can be computed, which is no rejection. -/
theorem neverRejects_recalculate : recalculate.NeverRejects := by
  intro s fault after failed
  unfold recalculate at failed
  dsimp only at failed
  split at failed <;> cases failed
  rfl

theorem neverRejects_takeSteps (saved : SavedState) : (takeSteps saved).NeverRejects := by
  intro s fault after failed
  unfold takeSteps at failed
  dsimp only at failed
  split at failed <;> cases failed
  rfl

/-- The end of most writes. -/
theorem rejectsFirst_changeOverlay (f : Overlay → Overlay) :
    (changeOverlay f >>= fun _ => recalculate).RejectsFirst :=
  ((neverRejects_changeOverlay f).bind fun _ => neverRejects_recalculate).rejectsFirst

theorem rejectsFirst_change (f : Store → Store) :
    (change f >>= fun _ => recalculate).RejectsFirst :=
  ((neverRejects_change f).bind fun _ => neverRejects_recalculate).rejectsFirst

/-! ## Writes -/

theorem removeInstance_rejectsFirst (instanceId : Value) :
    (removeInstance instanceId).RejectsFirst :=
  rejectsFirst_check fun _ => ((neverRejects_change _).bind fun _ =>
    (neverRejects_changeOverlay _).bind fun _ => neverRejects_recalculate).rejectsFirst

theorem setLocation_rejectsFirst (locationId : Value) : (setLocation locationId).RejectsFirst :=
  rejectsFirst_check fun _ => ((neverRejects_change _).bind fun _ =>
    neverRejects_checkRates.bind fun _ => neverRejects_recalculate).rejectsFirst

theorem setFigure_rejectsFirst
    (part : (OrderedMap String α → OrderedMap String α) → Overlay → Overlay)
    (clean : Value → Except OverrideFault α) (itemId value : Value) :
    (setFigure part clean itemId value).RejectsFirst := by
  refine rejectsFirst_check fun item => ?_
  dsimp only
  split
  · exact rejectsFirst_changeOverlay _
  · exact rejectsFirst_check fun _ => rejectsFirst_changeOverlay _

theorem setPrice_rejectsFirst (itemId value : Value) : (setPrice itemId value).RejectsFirst :=
  setFigure_rejectsFirst _ _ itemId value

theorem setMarkup_rejectsFirst (itemId value : Value) : (setMarkup itemId value).RejectsFirst :=
  setFigure_rejectsFirst _ _ itemId value

/-- The hours are checked before an entry is made for them. -/
theorem setHours_rejectsFirst (itemId roleName value : Value) :
    (setHours itemId roleName value).RejectsFirst := by
  refine rejectsFirst_check fun role => rejectsFirst_check fun item => ?_
  have twice (f g : Overlay → Overlay) : (changeOverlay f >>= fun _ =>
      changeOverlay g >>= fun _ => recalculate).RejectsFirst :=
    ((neverRejects_changeOverlay f).bind fun _ => (neverRejects_changeOverlay g).bind fun _ =>
      neverRejects_recalculate).rejectsFirst
  dsimp only
  split
  · exact twice _ _
  · exact rejectsFirst_check fun _ => twice _ _

theorem setWage_rejectsFirst (roleName value : Value) : (setWage roleName value).RejectsFirst := by
  refine rejectsFirst_check fun role => ?_
  split
  · exact (neverRejects_change _).rejectsFirst
  · exact rejectsFirst_check fun _ => (neverRejects_change _).rejectsFirst

theorem restore_neverRejects (saved : SavedState) : (restore saved).NeverRejects :=
  (neverRejects_takeSteps saved).bind fun _ => neverRejects_recalculate

theorem restoreValue_rejectsFirst (value : Value) : (restoreValue value).RejectsFirst :=
  rejectsFirst_check fun saved => (restore_neverRejects saved).rejectsFirst

theorem action_rejectsFirst (tag : String) (w : Write) : (w.action tag).RejectsFirst := by
  cases w with
  | selectPackage id => exact rejectsFirst_check fun _ => rejectsFirst_change _
  | removeInstance id => exact removeInstance_rejectsFirst id
  | setGlobal key value => exact rejectsFirst_check fun _ => rejectsFirst_change _
  | setLocal id key value =>
    exact rejectsFirst_check fun _ => rejectsFirst_check fun _ => rejectsFirst_change _
  | setLocation id => exact setLocation_rejectsFirst id
  | setPrice id value => exact setPrice_rejectsFirst id value
  | setMarkup id value => exact setMarkup_rejectsFirst id value
  | setHours id role value => exact setHours_rejectsFirst id role value
  | setQuantity id value =>
    exact rejectsFirst_check fun _ => rejectsFirst_check fun _ => rejectsFirst_changeOverlay _
  | swap id product =>
    exact rejectsFirst_check fun _ => rejectsFirst_check fun _ => rejectsFirst_check fun _ =>
      rejectsFirst_changeOverlay _
  | removeItem id => exact rejectsFirst_check fun _ => rejectsFirst_changeOverlay _
  | setWage role value => exact setWage_rejectsFirst role value
  | restore saved => exact (restore_neverRejects saved).rejectsFirst

end Action

namespace Session

variable {start s after : Session} {fault : SessionFault}

theorem write_rejected {tag : String} {w : Write} (call : s.write tag w = (.error fault, after))
    (rejected : fault.isRejection = true) : after = s :=
  Action.action_rejectsFirst tag w s fault after call rejected

theorem restoreValue_rejected {value : Value} (call : s.restoreValue value = (.error fault, after))
    (rejected : fault.isRejection = true) : after = s :=
  Action.restoreValue_rejectsFirst value s fault after call rejected

/-! ## Histories -/

/-- The outcome is a rejection. -/
def isRejected : Except SessionFault Unit → Bool
  | .ok _ => false
  | .error fault => fault.isRejection

theorem write_isRejected {tag : String} {w : Write} (rejected : isRejected (s.write tag w).1 = true) :
    ∃ fault, fault.isRejection = true ∧ s.write tag w = (.error fault, s) := by
  generalize written : s.write tag w = outcome at rejected
  obtain ⟨fault | _, t⟩ := outcome
  · rw [write_rejected written rejected]
    exact ⟨fault, rejected, rfl⟩
  · cases rejected

/-- The writes that are not rejected when their turn comes. -/
def unrejected (s : Session) : List (String × Write) → List (String × Write)
  | [] => []
  | (tag, w) :: rest =>
    if isRejected (s.write tag w).1 then s.unrejected rest
    else (tag, w) :: (s.write tag w).2.unrejected rest

/-- A history ends in the same session without its rejected writes. -/
theorem after_unrejected (s : Session) (writes : List (String × Write)) :
    s.after (s.unrejected writes) = s.after writes := by
  induction writes generalizing s with
  | nil => rfl
  | cons first rest ih =>
    obtain ⟨tag, w⟩ := first
    rw [unrejected, after]
    split
    · rename_i rejected
      obtain ⟨fault, _, same⟩ := write_isRejected rejected
      rw [ih, same]
    · exact ih _

/-- A call to a reached session that is rejected leaves it exactly as it is, and no row has an empty
entry of set hours. -/
theorem rejected_unchanged {source : Source} {asked : Value}
    (loaded : Session.load source asked = .ok start) (run : Run anyOutcome start s) :
    (∀ tag w fault after, s.write tag w = (.error fault, after) → fault.isRejection = true →
      after = s) ∧
    (∀ value fault after, s.restoreValue value = (.error fault, after) →
      fault.isRejection = true → after = s) ∧
    ∀ id hours, s.store.overlay.hours.get? id = some hours → hours ≠ .const none := by
  refine ⟨fun tag w fault after => write_rejected, fun value fault after => restoreValue_rejected,
    fun id hours found => ?_⟩
  exact ((run_valid loaded run).2.overlay.hours id hours found).1

/-! ## One rejection of each kind -/

/-- A rejected write of each kind, for a session with one package and one row of it. -/
def wrongWrites : List Write := [
  .selectPackage (.int 7),
  .removeInstance (.str "1"),
  .setGlobal (.str "qualitaetsstufe") (.str "Gold"),
  .setLocal (.str "1-00000001") (.str "raumgroesse") (.str "wide"),
  .setLocation (.str "nowhere"),
  .setPrice (.str "1-00000001-STD") (.float (-1.0)),
  .setMarkup (.str "1-00000001-STD") (.int 500),
  .setHours (.str "1-00000001-STD") (.str "geselle") (.str "two"),
  .setQuantity (.str "1-00000001-STD") (.float 1.5),
  .swap (.str "1-00000001-STD") (.str "PRE"),
  .removeItem (.str "1-00000001-PRE"),
  .setWage (.str "lehrling") (.int 20)]

theorem wrongWrites_rejected : (Session.load twoLocations .null).toOption.map (fun start =>
    wrongWrites.all fun w => isRejected ((start.after someWrites).write "" w).1) = some true := by
  decide +kernel

/-- Another location, but no list of removed rows. -/
def wrongState : Value := .obj [("location_id", .str "1"), ("removed", .str "all")]

/-- Each of them leaves the session, and so does a saved state of the wrong form. -/
theorem wrongWrites_unchanged : ∃ start s, Session.load twoLocations .null = .ok start ∧
    Run anyOutcome start s ∧
    (∀ w ∈ wrongWrites, ∃ fault, fault.isRejection = true ∧ s.write "" w = (.error fault, s)) ∧
    ∃ after, s.restoreValue wrongState = (.error .invalidState, after) ∧ after = s := by
  obtain ⟨start, loaded, rejected⟩ := toOption_map_eq_some_iff.1 wrongWrites_rejected
  have run : Run anyOutcome start (start.after someWrites) := run_after .refl _
  obtain ⟨writes, restored, _⟩ := rejected_unchanged loaded run
  refine ⟨start, _, loaded, run, fun w listed => ?_, ?_⟩
  · have ended := List.all_eq_true.1 rejected w listed
    generalize call : (start.after someWrites).write "" w = outcome at ended
    obtain ⟨fault | _, t⟩ := outcome
    · rw [writes "" w fault t call ended]
      exact ⟨fault, ended, rfl⟩
    · cases ended
  · have call : (start.after someWrites).restoreValue wrongState = (.error .invalidState, _) := rfl
    exact ⟨_, call, restored _ _ _ call rfl⟩

end Session

end WiringQuote
