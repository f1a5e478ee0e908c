import WiringQuote.Proofs.FixedPoint
import WiringQuote.Proofs.Session.Fresh
import WiringQuote.Proofs.Session.Pairs
import WiringQuote.Proofs.Session.Restored

/-!
# The last write wins

What a user has set for a row lives in the overlay, and rows are resolved anew after each write. A
`Setting` says what each write sets for a row; what the overlay holds is always what the last of the
carried out writes has set.

* `write_overlays`: what a write that is carried out does to the overlay.
* `Setting.Follows.after`: what is held for a row is what the last write has set for it.
* `rows_lastWrite`: price, markup and hours of each displayed row are those of the last write, and
  no displayed row was removed by it.
-/

namespace WiringQuote

open Fallible

theorem PerRole.get_getD (figures : Option (PerRole (Option Float))) (role : Role) :
    (figures.getD (.const none)).get role = figures.bind (·.get role) := by
  cases figures with
  | none => cases role <;> rfl
  | some _ => rfl

/-! ## Settings -/

/-- What a user sets for a row by a value; nothing by a blank one. -/
def Override.cleaned (clean : Value → Except OverrideFault Float) (value : Value) : Option Float :=
  if isBlank value then none else (clean value).toOption

/-- The write takes a selected package away, and with it what was set for the row. -/
def Write.drops (id : String) : Write → Bool
  | .removeInstance (.str instanceId) => id.startsWith (instanceId ++ "-")
  | _ => false

/-- The write replaces what was set for the row, or takes it away with the selected package. -/
def Write.forgets (id : String) : Write → Bool
  | .restore _ => true
  | w => w.drops id

/-- Something that a user sets for single rows. -/
structure Setting (α : Type) where
  /-- What the overlay holds for a row. -/
  held : Overlay → String → α
  /-- What it holds as long as nothing is set. -/
  unset : α
  /-- What a write sets for a row, if it changes anything for it. -/
  sets : String → Write → Option α

namespace Setting

variable {α : Type}

/-- What the last of the writes that change anything for a row has set. -/
def last (setting : Setting α) (writes : List Write) (id : String) : α :=
  (writes.filterMap (setting.sets id)).getLast?.getD setting.unset

def price : Setting (Option Float) where
  held overlay id := overlay.prices.get? id
  unset := none
  sets id
    | .restore saved =>
      some ((saved.prices.get? id).bind (SavedState.cleanedEntry Override.price))
    | .setPrice (.str own) value => if own = id then some (Override.cleaned Override.price value) else none
    | w => if w.drops id then some none else none

def markup : Setting (Option Float) where
  held overlay id := overlay.markups.get? id
  unset := none
  sets id
    | .restore saved =>
      some ((saved.markups.get? id).bind (SavedState.cleanedEntry Override.markup))
    | .setMarkup (.str own) value => if own = id then some (Override.cleaned Override.markup value) else none
    | w => if w.drops id then some none else none

def hours (role : Role) : Setting (Option Float) where
  held overlay id := (overlay.hours.get? id).bind (·.get role)
  unset := none
  sets id
    | .restore saved =>
      some (((saved.hours.get? id).bind (·.get? role.name)).bind
        (SavedState.cleanedEntry Override.hours))
    | .setHours (.str own) name value =>
      if own = id ∧ (Override.role name).toOption = some role then
        some (Override.cleaned Override.hours value)
      else none
    | w => if w.drops id then some none else none

/-- Whether a row is removed. -/
def removal : Setting Bool where
  held overlay id := overlay.removed.contains id
  unset := false
  sets id
    | .restore saved => some (saved.removed.contains id)
    | .removeItem (.str own) => if own = id then some true else none
    | w => if w.drops id then some false else none

end Setting

/-! ## One write -/

/-- What a write that is carried out does to the overlay. -/
inductive Overlays (overlay : Overlay) : Write → Overlay → Prop
  | selectPackage (id : Value) : Overlays overlay (.selectPackage id) overlay
  | setGlobal (key value : Value) : Overlays overlay (.setGlobal key value) overlay
  | setLocal (id key value : Value) : Overlays overlay (.setLocal id key value) overlay
  | setLocation (id : Value) : Overlays overlay (.setLocation id) overlay
  | setWage (role value : Value) : Overlays overlay (.setWage role value) overlay
  | removeInstance (id : String) :
      Overlays overlay (.removeInstance (.str id)) (overlay.dropRows (id ++ "-"))
  | setPrice {id : String} {value : Value} {prices : OrderedMap String Float} :
      Session.setEntry overlay.prices id Override.price value = .ok prices →
      Overlays overlay (.setPrice (.str id) value) { overlay with prices }
  | setMarkup {id : String} {value : Value} {markups : OrderedMap String Float} :
      Session.setEntry overlay.markups id Override.markup value = .ok markups →
      Overlays overlay (.setMarkup (.str id) value) { overlay with markups }
  | setHours (id : String) {name : Value} {role : Role} (value : Value) :
      Override.role name = .ok role →
      Overlays overlay (.setHours (.str id) name value) { overlay with
        hours := Session.setHours overlay.hours id
          (((overlay.hours.get? id).getD (.const none)).set role
            (Override.cleaned Override.hours value)) }
  | setQuantity (id value : Value) (quantities : OrderedMap String Int) :
      Overlays overlay (.setQuantity id value) { overlay with quantities }
  | swap (id product : Value) (swaps : OrderedMap String String) :
      Overlays overlay (.swap id product) { overlay with swaps }
  | removeItem (id : String) : Overlays overlay (.removeItem (.str id))
      { overlay with removed := (overlay.removed ++ [id]).eraseDups }
  | restore {saved : SavedState} {restored : Overlay} : saved.Restores restored →
      Overlays overlay (.restore saved) restored

namespace Session

variable {s : Session} {store : Store}

theorem findRow_ok {key : Value} {item : LineItem} (found : s.findRow key = .ok item) :
    key = .str item.id := by
  unfold findRow at found
  split at found
  · rename_i row listed
    cases found
    obtain ⟨id, isText, first⟩ := Option.bind_eq_some_iff.1 listed
    have own : item.id = id := by simpa using List.find?_some first
    cases key <;> cases isText
    rw [own]
  · cases found

theorem lookupName_ok {unknown : SessionFault} {key : Value} {name : String}
    (found : lookupName unknown key = .ok name) : key = .str name := by
  unfold lookupName at found
  split at found <;> cases found
  rfl

theorem instanceKey_ok {key : Value} {id : String} (found : s.instanceKey key = .ok id) :
    key = .str id := by
  unfold instanceKey at found
  obtain ⟨name, isText, found⟩ := bind_ok_iff.1 found
  split at found <;> cases found
  exact lookupName_ok isText

/-! ### Plans -/

section Plans

theorem planSelect_overlays {packageId : Value} {tag : String}
    (planned : s.planSelect packageId tag = .ok store) :
    Overlays s.store.overlay (.selectPackage packageId) store.overlay := by
  unfold planSelect at planned
  obtain ⟨_, _, same⟩ := bind_ok_iff.1 planned
  cases same
  exact .selectPackage packageId

theorem planRemoveInstance_overlays {key : Value}
    (planned : s.planRemoveInstance key = .ok store) :
    Overlays s.store.overlay (.removeInstance key) store.overlay := by
  unfold planRemoveInstance at planned
  obtain ⟨id, found, same⟩ := bind_ok_iff.1 planned
  cases same
  rw [instanceKey_ok found]
  exact .removeInstance id

theorem planGlobal_overlays {key value : Value} (planned : s.planGlobal key value = .ok store) :
    Overlays s.store.overlay (.setGlobal key value) store.overlay := by
  unfold planGlobal at planned
  obtain ⟨_, _, same⟩ := bind_ok_iff.1 planned
  cases same
  exact .setGlobal key value

theorem planLocal_overlays {instanceId key value : Value}
    (planned : s.planLocal instanceId key value = .ok store) :
    Overlays s.store.overlay (.setLocal instanceId key value) store.overlay := by
  unfold planLocal at planned
  obtain ⟨_, _, planned⟩ := bind_ok_iff.1 planned
  obtain ⟨_, _, same⟩ := bind_ok_iff.1 planned
  cases same
  exact .setLocal instanceId key value

theorem planLocation_overlays {key : Value} (planned : s.planLocation key = .ok store) :
    Overlays s.store.overlay (.setLocation key) store.overlay := by
  unfold planLocation at planned
  obtain ⟨_, _, same⟩ := bind_ok_iff.1 planned
  cases same
  exact .setLocation key

theorem planPrice_overlays {itemId value : Value} (planned : s.planPrice itemId value = .ok store) :
    Overlays s.store.overlay (.setPrice itemId value) store.overlay := by
  unfold planPrice at planned
  obtain ⟨item, found, planned⟩ := bind_ok_iff.1 planned
  obtain ⟨prices, set, same⟩ := bind_ok_iff.1 planned
  cases same
  rw [findRow_ok found]
  exact .setPrice set

theorem planMarkup_overlays {itemId value : Value}
    (planned : s.planMarkup itemId value = .ok store) :
    Overlays s.store.overlay (.setMarkup itemId value) store.overlay := by
  unfold planMarkup at planned
  obtain ⟨item, found, planned⟩ := bind_ok_iff.1 planned
  obtain ⟨markups, set, same⟩ := bind_ok_iff.1 planned
  cases same
  rw [findRow_ok found]
  exact .setMarkup set

theorem planHours_overlays {itemId roleName value : Value}
    (planned : s.planHours itemId roleName value = .ok store) :
    Overlays s.store.overlay (.setHours itemId roleName value) store.overlay := by
  unfold planHours at planned
  obtain ⟨role, named, planned⟩ := bind_ok_iff.1 planned
  obtain ⟨item, found, planned⟩ := bind_ok_iff.1 planned
  rw [findRow_ok found]
  have overlays : Overlays s.store.overlay _ _ :=
    .setHours item.id value (mapError_ok_iff.1 named)
  unfold Override.cleaned at overlays
  dsimp only at planned
  split at planned
  · rename_i blank
    cases planned
    rw [if_pos blank] at overlays
    exact overlays
  · rename_i some
    obtain ⟨figure, set, same⟩ := bind_ok_iff.1 planned
    cases same
    obtain ⟨x, cleaned, rfl⟩ := map_ok_iff.1 set
    rw [if_neg some, mapError_ok_iff.1 cleaned] at overlays
    exact overlays

theorem planQuantity_overlays {itemId value : Value}
    (planned : s.planQuantity itemId value = .ok store) :
    Overlays s.store.overlay (.setQuantity itemId value) store.overlay := by
  unfold planQuantity at planned
  obtain ⟨_, _, planned⟩ := bind_ok_iff.1 planned
  obtain ⟨_, _, same⟩ := bind_ok_iff.1 planned
  cases same
  exact .setQuantity itemId value _

theorem planSwap_overlays {itemId productKey : Value}
    (planned : s.planSwap itemId productKey = .ok store) :
    Overlays s.store.overlay (.swap itemId productKey) store.overlay := by
  unfold planSwap at planned
  obtain ⟨_, _, planned⟩ := bind_ok_iff.1 planned
  obtain ⟨_, _, planned⟩ := bind_ok_iff.1 planned
  obtain ⟨_, _, same⟩ := bind_ok_iff.1 planned
  cases same
  exact .swap itemId productKey _

theorem planRemoveItem_overlays {itemId : Value}
    (planned : s.planRemoveItem itemId = .ok store) :
    Overlays s.store.overlay (.removeItem itemId) store.overlay := by
  unfold planRemoveItem at planned
  obtain ⟨item, found, same⟩ := bind_ok_iff.1 planned
  cases same
  rw [findRow_ok found]
  exact .removeItem item.id

theorem planWage_overlays {roleName value : Value}
    (planned : s.planWage roleName value = .ok store) :
    Overlays s.store.overlay (.setWage roleName value) store.overlay := by
  unfold planWage at planned
  obtain ⟨_, _, planned⟩ := bind_ok_iff.1 planned
  dsimp only at planned
  split at planned
  · cases planned
    exact .setWage roleName value
  · obtain ⟨_, _, same⟩ := bind_ok_iff.1 planned
    cases same
    exact .setWage roleName value

end Plans

/-! ### Writes -/

theorem carryOut_overlays {w : Write} {plan : Except SessionFault Store}
    (planned : ∀ store, plan = .ok store → Overlays s.store.overlay w store.overlay)
    (done : (s.carryOut plan).1 = .ok ()) :
    Overlays s.store.overlay w (s.carryOut plan).2.store.overlay := by
  cases plan with
  | error fault => cases done
  | ok store =>
    unfold carryOut commit
    dsimp only
    split <;> exact planned store rfl

theorem keep_overlays {w : Write} {plan : Except SessionFault Store}
    (planned : ∀ store, plan = .ok store → Overlays s.store.overlay w store.overlay)
    (done : (s.keep plan).1 = .ok ()) :
    Overlays s.store.overlay w (s.keep plan).2.store.overlay := by
  cases plan with
  | error fault => cases done
  | ok store => exact planned store rfl

theorem restore_overlays {saved : SavedState} (done : (s.restore saved).1 = .ok ()) :
    Overlays s.store.overlay (.restore saved) (s.restore saved).2.store.overlay := by
  unfold restore at done ⊢
  cases ended : StoreStep.run (saved.steps s.reference) s.store with
  | mk outcome store =>
    rw [ended] at done
    cases outcome with
    | error fault => cases done
    | ok =>
      unfold commit
      dsimp only
      split <;> exact .restore (.of_steps ended)

/-- What a write that is carried out does to the overlay. -/
theorem write_overlays {tag : String} {w : Write} (done : (s.write tag w).1 = .ok ()) :
    Overlays s.store.overlay w (s.write tag w).2.store.overlay := by
  rw [write_eq] at done ⊢
  cases w with
  | selectPackage id => exact carryOut_overlays (fun _ => planSelect_overlays) done
  | removeInstance id => exact carryOut_overlays (fun _ => planRemoveInstance_overlays) done
  | setGlobal key value => exact carryOut_overlays (fun _ => planGlobal_overlays) done
  | setLocal id key value => exact carryOut_overlays (fun _ => planLocal_overlays) done
  | setLocation id => exact carryOut_overlays (fun _ => planLocation_overlays) done
  | setPrice id value => exact carryOut_overlays (fun _ => planPrice_overlays) done
  | setMarkup id value => exact carryOut_overlays (fun _ => planMarkup_overlays) done
  | setHours id role value => exact carryOut_overlays (fun _ => planHours_overlays) done
  | setQuantity id value => exact carryOut_overlays (fun _ => planQuantity_overlays) done
  | swap id product => exact carryOut_overlays (fun _ => planSwap_overlays) done
  | removeItem id => exact carryOut_overlays (fun _ => planRemoveItem_overlays) done
  | setWage role value => exact keep_overlays (fun _ => planWage_overlays) done
  | restore saved => exact restore_overlays done

end Session

/-! ## Settings follow the writes -/

namespace Setting

variable {α : Type}

/-- What is held for a row after a write is what the write sets for it, else what was held before. -/
def Follows (setting : Setting α) : Prop :=
  ∀ before w after, Overlays before w after → ∀ id,
    setting.held after id = (setting.sets id w).getD (setting.held before id)

/-- What is held for a row of a dropped package is taken away. -/
theorem get?_dropRows {β : Type} (entries : OrderedMap String β) (start id : String) :
    (entries.filterKeys fun key => !key.startsWith start).get? id =
      (if id.startsWith start then some none else none).getD (entries.get? id) := by
  rw [OrderedMap.get?_filterKeys]
  cases id.startsWith start <;> rfl

theorem setEntry_get? {entries next : OrderedMap String Float} {own : String}
    {clean : Value → Except OverrideFault Float} {value : Value}
    (set : Session.setEntry entries own clean value = .ok next) (id : String) :
    next.get? id = (if own = id then some (Override.cleaned clean value) else none).getD
      (entries.get? id) := by
  unfold Session.setEntry at set
  unfold Override.cleaned
  split at set
  · rename_i blank
    cases set
    rw [OrderedMap.erase, OrderedMap.get?_filterKeys]
    by_cases same : own = id
    · simp [same, blank]
    · simp [same, Ne.symm same]
  · rename_i some
    obtain ⟨x, cleaned, rest⟩ := bind_ok_iff.1 set
    cases rest
    rw [OrderedMap.get?_insert, mapError_ok_iff.1 cleaned, if_neg some]
    by_cases same : own = id
    · rw [if_pos same, if_pos same]
      rfl
    · rw [if_neg same, if_neg same]
      rfl

theorem setHours_get? (entries : OrderedMap String (PerRole (Option Float))) (own : String)
    (figures : PerRole (Option Float)) (id : String) (role : Role) :
    ((Session.setHours entries own figures).get? id).bind (·.get role) =
      if own = id then figures.get role else (entries.get? id).bind (·.get role) := by
  unfold Session.setHours
  split
  · rename_i nothing
    rw [OrderedMap.erase, OrderedMap.get?_filterKeys, nothing]
    by_cases same : own = id
    · subst same
      cases role <;> simp [PerRole.const, PerRole.get]
    · simp [same, Ne.symm same]
  · rw [OrderedMap.get?_insert]
    split <;> rfl

theorem price_follows : price.Follows := by
  intro before w after overlays id
  cases overlays with
  | removeInstance own => exact get?_dropRows before.prices _ id
  | setPrice set => exact setEntry_get? set id
  | restore restores => exact restores.prices id
  | _ => rfl

theorem markup_follows : markup.Follows := by
  intro before w after overlays id
  cases overlays with
  | removeInstance own => exact get?_dropRows before.markups _ id
  | setMarkup set => exact setEntry_get? set id
  | restore restores => exact restores.markups id
  | _ => rfl

theorem hours_follows (role : Role) : (hours role).Follows := by
  intro before w after overlays id
  cases overlays with
  | removeInstance own =>
    show ((before.hours.filterKeys _).get? id).bind (·.get role) = _
    rw [get?_dropRows]
    show _ = (if id.startsWith (own ++ "-") then some none else none).getD _
    cases id.startsWith (own ++ "-") <;> rfl
  | @setHours own name named value isRole =>
    show ((Session.setHours before.hours own _).get? id).bind (·.get role) =
      (if own = id ∧ (Override.role name).toOption = some role then _ else none).getD
        ((before.hours.get? id).bind (·.get role))
    rw [setHours_get?, PerRole.get_set, isRole]
    by_cases row : own = id
    · subst row
      by_cases isOwn : role = named
      · simp [isOwn, Except.toOption]
      · simp [isOwn, Ne.symm isOwn, Except.toOption, PerRole.get_getD]
    · simp [row]
  | restore restores => exact restores.hours id role
  | _ => rfl

theorem removal_follows : removal.Follows := by
  intro before w after overlays id
  cases overlays with
  | removeInstance own =>
    show (before.removed.filter fun key => !key.startsWith (own ++ "-")).contains id =
      (if id.startsWith (own ++ "-") then some false else none).getD (before.removed.contains id)
    cases starts : id.startsWith (own ++ "-") <;> simp [starts]
  | removeItem own =>
    show (before.removed ++ [own]).eraseDups.contains id =
      (if own = id then some true else none).getD (before.removed.contains id)
    by_cases row : own = id
    · simp [row]
    · simp [row, Ne.symm row]
  | @restore saved after restores =>
    show after.removed.contains id = saved.removed.contains id
    simpa using restores.removed id
  | _ => rfl

/-- A write that does not forget what was set for a row does not take its removal back. -/
theorem removal_remembered {id : String} {w : Write} (remembered : w.forgets id = false) :
    removal.sets id w ≠ some false := by
  cases w with
  | restore saved => cases remembered
  | removeInstance key =>
    have kept : Write.drops id (.removeInstance key) = false := remembered
    show (if Write.drops id (.removeInstance key) then some false else none) ≠ some false
    rw [kept]
    simp
  | removeItem key =>
    cases key with
    | str own =>
      show (if own = id then some true else none) ≠ some false
      split <;> simp
    | _ => simp [removal, Write.drops]
  | _ => simp [removal, Write.drops]

/-- A removal that is not forgotten stays the last thing that is set. -/
theorem removal_last {before between : List Write} {id : String}
    (remembered : ∀ w ∈ between, w.forgets id = false) :
    removal.last (before ++ .removeItem (.str id) :: between) id = true := by
  have set : removal.sets id (.removeItem (.str id)) = some true := if_pos rfl
  unfold last
  rw [List.filterMap_append, List.filterMap_cons_some set, List.getLast?_append, List.getLast?_cons,
    Option.some_or, Option.getD_some]
  cases later : (between.filterMap (removal.sets id)).getLast? with
  | none => rfl
  | some removed =>
    obtain ⟨w, present, own⟩ := List.mem_filterMap.1 (List.mem_of_getLast? later)
    cases removed with
    | true => rfl
    | false => exact absurd own (removal_remembered (remembered w present))

end Setting

/-! ## Runs -/

/-- The row shows what the overlay holds for its id. -/
structure LineItem.Carries (overlay : Overlay) (row : LineItem) : Prop where
  price : row.localPrice = (Setting.price.held overlay row.id).map .float
  markup : row.localMarkup = (Setting.markup.held overlay row.id).map .float
  hours : ∀ role, row.manualHours.get role = (Setting.hours role).held overlay row.id
  total : ∀ role x, row.manualHours.get role = some x → row.hoursTotal.get role = x
  stays : Setting.removal.held overlay row.id = false

theorem Overlay.valueRow_carries {overlay : Overlay} {item : LineItem}
    (stayed : item.id ∉ overlay.removed) : (overlay.valueRow item).Carries overlay where
  price := rfl
  markup := rfl
  hours role := PerRole.get_getD _ role
  total role x set := by
    show (withManual ((overlay.hours.get? item.id).getD (.const none)) item.hoursTotal).get role = x
    unfold withManual PerRole.zipWith
    rw [PerRole.get_ofFn]
    show (((overlay.valueRow item).manualHours).get role).getD (item.hoursTotal.get role) = x
    rw [set, Option.getD_some]
  stays := by
    show overlay.removed.contains item.id = false
    simpa using stayed

namespace Session

variable {start s : Session}

/-- The writes that are carried out, in order. -/
def carriedOut (s : Session) : List (String × Write) → List Write
  | [] => []
  | (tag, w) :: rest =>
    if (s.write tag w).1.isOk then w :: (s.write tag w).2.carriedOut rest
    else (s.write tag w).2.carriedOut rest

/-- A settled write is carried out, or changes nothing. -/
theorem write_settled {tag : String} {w : Write} (allowed : isSettled (s.write tag w).1 = true) :
    (s.write tag w).1 = .ok () ∨
      (∃ fault, (s.write tag w).1 = .error fault) ∧ (s.write tag w).2 = s := by
  have moves := write_moves s tag w
  generalize s.write tag w = written at moves allowed
  cases moves with
  | refused fault => exact .inr ⟨⟨fault, rfl⟩, rfl⟩
  | shown | wages => exact .inl rfl
  | unshown store fault => cases allowed

/-- After settled writes, what is held for a row is what the last of them has set for it. -/
theorem after_held {α : Type} {setting : Setting α} (follows : setting.Follows)
    {writes : List (String × Write)} (all : s.settles writes = true) (id : String) :
    setting.held (s.after writes).store.overlay id =
      ((s.carriedOut writes).filterMap (setting.sets id)).getLast?.getD
        (setting.held s.store.overlay id) := by
  induction writes generalizing s with
  | nil => rfl
  | cons first rest ih =>
    obtain ⟨tag, w⟩ := first
    unfold settles at all
    rw [Bool.and_eq_true] at all
    rw [after, ih all.2, carriedOut]
    rcases write_settled all.1 with done | ⟨⟨fault, refused⟩, same⟩
    · rw [follows _ _ _ (write_overlays done), done, if_pos (by rfl)]
      cases set : setting.sets id w with
      | none => rw [List.filterMap_cons_none set, Option.getD_none]
      | some a =>
        rw [List.filterMap_cons_some set, List.getLast?_cons, Option.getD_some, Option.getD_some]
    · rw [refused, same]
      rfl

/-- The rows of a shown store carry its settings. -/
theorem rows_carry (fresh : s.store.display s.reference = .ok s.display) {row : LineItem}
    (shown : row ∈ s.rows) : row.Carries s.store.overlay := by
  obtain ⟨stages, of, display⟩ := Store.display_ok_iff.1 fresh
  unfold rows at shown
  rw [display] at shown
  rcases List.mem_append.1 shown with product | device
  · obtain ⟨item, listed, rfl⟩ := List.mem_map.1 product
    have resolved := List.mem_map_of_mem (f := (·.id)) listed
    rw [stages.items_ids] at resolved
    obtain ⟨revised, present, same⟩ := List.mem_map.1 resolved
    obtain ⟨built, _, stayed, kept⟩ :=
      Overlay.revise_origin (LineItem.build_ids_nodup of.built) of.revised present
    exact Overlay.valueRow_carries (same ▸ kept.id ▸ stayed)
  · obtain ⟨item, listed, rfl⟩ := List.mem_map.1 device
    obtain ⟨derived, _, stayed, kept⟩ :=
      Overlay.revise_origin (Protection.derive_ids_nodup of.derived) of.protection listed
    exact Overlay.valueRow_carries (kept.id ▸ stayed)

/-- After settled writes each displayed row has the price, the markup and the hours that the last
write has set for it, hours that are set are its hours, and if it was removed then that was taken back
since. -/
theorem rows_lastWrite {source : Source} {asked : Value} {writes : List (String × Write)}
    (loaded : Session.load source asked = .ok start) (all : start.settles writes = true) :
    ∀ row ∈ (start.after writes).rows,
      row.localPrice = (Setting.price.last (start.carriedOut writes) row.id).map .float ∧
      row.localMarkup = (Setting.markup.last (start.carriedOut writes) row.id).map .float ∧
      (∀ role,
        row.manualHours.get role = (Setting.hours role).last (start.carriedOut writes) row.id ∧
        ∀ x, row.manualHours.get role = some x → row.hoursTotal.get role = x) ∧
      ∀ before between, start.carriedOut writes = before ++ .removeItem (.str row.id) :: between →
        ∃ w ∈ between, w.forgets row.id = true := by
  intro row shown
  have run : Run settled start (start.after writes) :=
    run_of_settles (fun _ _ _ settled => settled) .refl all
  have carries := rows_carry (run_fresh loaded run) shown
  have empty : start.store.overlay = .empty := by
    obtain ⟨_, _, _, _, store, _⟩ := load_ok loaded
    rw [store]
    rfl
  have held : ∀ {α : Type} {setting : Setting α}, setting.Follows →
      setting.held .empty row.id = setting.unset →
      setting.held (start.after writes).store.overlay row.id =
        setting.last (start.carriedOut writes) row.id := by
    intro α setting follows unset
    rw [after_held follows all, empty, unset]
    rfl
  refine ⟨?_, ?_, fun role => ⟨?_, carries.total role⟩, fun before between removed => ?_⟩
  · rw [carries.price, held Setting.price_follows rfl]
  · rw [carries.markup, held Setting.markup_follows rfl]
  · rw [carries.hours, held (Setting.hours_follows role) rfl]
  · by_contra nothing
    have remembered : ∀ w ∈ between, w.forgets row.id = false := by simpa using nothing
    have stays := carries.stays
    rw [held Setting.removal_follows rfl, removed, Setting.removal_last remembered] at stays
    cases stays

/-- Two packages with a socket each: a row with a price set twice and hours of one role taken back, and
a removed row that another location does not bring back. -/
def repeatedWrites : List (String × Write) := [
  ("a", .selectPackage (.int 1)),
  ("b", .selectPackage (.int 1)),
  ("", .setPrice (.str "1-a-PRE") (.str "9,995")),
  ("", .setHours (.str "1-a-PRE") (.str "geselle") (.float 1.505)),
  ("", .setHours (.str "1-a-PRE") (.str "meister") (.int 2)),
  ("", .setMarkup (.str "1-a-PRE") (.int 500)),
  ("", .removeItem (.str "1-b-PRE")),
  ("", .setLocation (.str "2")),
  ("", .removeItem (.str "1-b-STD")),
  ("", .setLocation (.str "1")),
  ("", .setPrice (.str "1-a-PRE") (.int 4)),
  ("", .setHours (.str "1-a-PRE") (.str "geselle") (.str ""))]

theorem repeatedWrites_settle : (Session.load twoLocations .null).toOption.map (fun start =>
    (start.settles repeatedWrites,
      (start.after repeatedWrites).rows.map fun row => (row.id, row.localPrice))) =
      some (true, [("1-a-PRE", some (.float 4.0))]) := by decide +kernel

/-- The row that is left carries what was set last. -/
theorem repeatedWrites_last : ∃ start, Session.load twoLocations .null = .ok start ∧
    start.settles repeatedWrites = true ∧
    (start.after repeatedWrites).rows.map (·.id) = ["1-a-PRE"] ∧
    ∀ row ∈ (start.after repeatedWrites).rows,
      row.localPrice = (Setting.price.last (start.carriedOut repeatedWrites) row.id).map .float ∧
      row.localMarkup = (Setting.markup.last (start.carriedOut repeatedWrites) row.id).map .float ∧
      (∀ role,
        row.manualHours.get role =
          (Setting.hours role).last (start.carriedOut repeatedWrites) row.id ∧
        ∀ x, row.manualHours.get role = some x → row.hoursTotal.get role = x) ∧
      ∀ before between,
        start.carriedOut repeatedWrites = before ++ .removeItem (.str row.id) :: between →
        ∃ w ∈ between, w.forgets row.id = true := by
  obtain ⟨start, loaded, both⟩ := toOption_map_eq_some_iff.1 repeatedWrites_settle
  obtain ⟨all, rows⟩ := Prod.mk.inj both
  have ids : (start.after repeatedWrites).rows.map (·.id) = ["1-a-PRE"] := by
    have firsts := congrArg (List.map Prod.fst) rows
    rw [List.map_map] at firsts
    exact firsts
  exact ⟨start, loaded, all, ids, rows_lastWrite loaded all⟩

end Session

end WiringQuote
