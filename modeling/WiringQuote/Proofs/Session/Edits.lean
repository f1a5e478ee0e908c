import WiringQuote.Proofs.Session.Removal
import WiringQuote.Proofs.Session.Restore

/-!
# Edits of one selected package

Whatever is set for a selected package and its rows is found again by the id of the package. So removing
the package takes back everything since it was selected.

* `planRow_setsOnly`: a write to a row sets nothing for other rows.
* `Edits.edited`: after any edits of one package the rest of the store is as it was.
* `removeInstance_undoes`: selecting a package, editing it and removing it is no change.
-/

namespace WiringQuote

open Fallible LineItem

/-! ## Writes to one row -/

/-- A write that sets something for the row with an id. -/
inductive Write.SetsRow (id : String) : Write → Prop
  | price (value : Value) : SetsRow id (.setPrice (.str id) value)
  | markup (value : Value) : SetsRow id (.setMarkup (.str id) value)
  | hours (role value : Value) : SetsRow id (.setHours (.str id) role value)
  | quantity (value : Value) : SetsRow id (.setQuantity (.str id) value)
  | swap (product : Value) : SetsRow id (.swap (.str id) product)
  | removal : SetsRow id (.removeItem (.str id))

/-- The overlays are the same but for one row: without it they agree. -/
structure Overlay.ChangesOnly (id : String) (before after : Overlay) : Prop where
  prices : ∀ keep : String → Bool, keep id = false →
    after.prices.filterKeys keep = before.prices.filterKeys keep
  markups : ∀ keep : String → Bool, keep id = false →
    after.markups.filterKeys keep = before.markups.filterKeys keep
  hours : ∀ keep : String → Bool, keep id = false →
    after.hours.filterKeys keep = before.hours.filterKeys keep
  quantities : ∀ keep : String → Bool, keep id = false →
    after.quantities.filterKeys keep = before.quantities.filterKeys keep
  swaps : ∀ keep : String → Bool, keep id = false →
    after.swaps.filterKeys keep = before.swaps.filterKeys keep
  removed : ∀ keep : String → Bool, keep id = false →
    after.removed.filter keep = before.removed.filter keep

namespace Overlay

variable {id : String} {before after : Overlay}

theorem ChangesOnly.refl (id : String) (overlay : Overlay) : overlay.ChangesOnly id overlay :=
  ⟨fun _ _ => rfl, fun _ _ => rfl, fun _ _ => rfl, fun _ _ => rfl, fun _ _ => rfl, fun _ _ => rfl⟩

/-- Dropping the row, and others with it, drops the change. -/
theorem ChangesOnly.dropRows (changes : before.ChangesOnly id after) {start : String}
    (starts : id.startsWith start = true) : after.dropRows start = before.dropRows start := by
  have left : (!id.startsWith start) = false := by rw [starts]; rfl
  unfold Overlay.dropRows
  dsimp only
  rw [changes.prices _ left, changes.markups _ left, changes.hours _ left,
    changes.quantities _ left, changes.swaps _ left, changes.removed _ left]

end Overlay

namespace Session

variable {s : Session} {id : String}

theorem setEntry_filterKeys {α : Type} {entries next : OrderedMap String α} {value : Value}
    {clean : Value → Except OverrideFault α} (set : setEntry entries id clean value = .ok next)
    (keep : String → Bool) (left : keep id = false) :
    next.filterKeys keep = entries.filterKeys keep := by
  unfold setEntry at set
  split at set
  · cases set
    exact OrderedMap.filterKeys_erase left
  · obtain ⟨a, _, same⟩ := bind_ok_iff.1 set
    cases same
    exact OrderedMap.filterKeys_insert left a

theorem setHours_filterKeys (entries : OrderedMap String (PerRole (Option Float)))
    (hours : PerRole (Option Float)) (keep : String → Bool) (left : keep id = false) :
    (setHours entries id hours).filterKeys keep = entries.filterKeys keep := by
  unfold setHours
  split
  · exact OrderedMap.filterKeys_erase left
  · exact OrderedMap.filterKeys_insert left hours

theorem filter_eraseDups_append {removed : List String} (distinct : removed.Nodup)
    (keep : String → Bool) (left : keep id = false) :
    (removed ++ [id]).eraseDups.filter keep = removed.filter keep := by
  have new : (([id].removeAll removed).eraseDups).filter keep = [] := by
    rw [List.filter_eq_nil_iff]
    intro other listed
    rw [List.mem_eraseDups] at listed
    have own : other = id := by simpa using (List.mem_filter.1 listed).1
    rw [own, left]
    exact Bool.false_ne_true
  rw [List.eraseDups_append, SavedState.eraseDups_of_nodup distinct, List.filter_append, new,
    List.append_nil]

/-- The plan changes nothing but what is set for one row. -/
def SetsOnly (s : Session) (id : String) (plan : Except SessionFault Store) : Prop :=
  ∀ store, plan = .ok store → ∃ overlay, store = s.overlaid overlay ∧
    s.store.overlay.ChangesOnly id overlay

section Plans

theorem planPrice_setsOnly (value : Value) : s.SetsOnly id (s.planPrice (.str id) value) := by
  intro store planned
  unfold planPrice at planned
  obtain ⟨item, found, planned⟩ := bind_ok_iff.1 planned
  obtain ⟨prices, set, same⟩ := bind_ok_iff.1 planned
  cases same
  cases findRow_ok found
  exact ⟨_, rfl, { Overlay.ChangesOnly.refl _ _ with prices := setEntry_filterKeys set }⟩

theorem planMarkup_setsOnly (value : Value) : s.SetsOnly id (s.planMarkup (.str id) value) := by
  intro store planned
  unfold planMarkup at planned
  obtain ⟨item, found, planned⟩ := bind_ok_iff.1 planned
  obtain ⟨markups, set, same⟩ := bind_ok_iff.1 planned
  cases same
  cases findRow_ok found
  exact ⟨_, rfl, { Overlay.ChangesOnly.refl _ _ with markups := setEntry_filterKeys set }⟩

theorem planHours_setsOnly (role value : Value) :
    s.SetsOnly id (s.planHours (.str id) role value) := by
  intro store planned
  unfold planHours at planned
  obtain ⟨_, _, named⟩ := bind_ok_iff.1 planned
  obtain ⟨item, found, rest⟩ := bind_ok_iff.1 named
  cases findRow_ok found
  dsimp only at rest
  split at rest
  · cases rest
    exact ⟨_, rfl, { Overlay.ChangesOnly.refl _ _ with hours := setHours_filterKeys _ _ }⟩
  · obtain ⟨_, _, same⟩ := bind_ok_iff.1 rest
    cases same
    exact ⟨_, rfl, { Overlay.ChangesOnly.refl _ _ with hours := setHours_filterKeys _ _ }⟩

theorem planQuantity_setsOnly (value : Value) :
    s.SetsOnly id (s.planQuantity (.str id) value) := by
  intro store planned
  unfold planQuantity at planned
  obtain ⟨quantity, _, planned⟩ := bind_ok_iff.1 planned
  obtain ⟨item, found, same⟩ := bind_ok_iff.1 planned
  cases same
  cases findRow_ok found
  exact ⟨_, rfl, { Overlay.ChangesOnly.refl _ _ with
    quantities := fun _ left => OrderedMap.filterKeys_insert left quantity }⟩

theorem planSwap_setsOnly (product : Value) : s.SetsOnly id (s.planSwap (.str id) product) := by
  intro store planned
  unfold planSwap at planned
  obtain ⟨item, found, rest⟩ := bind_ok_iff.1 planned
  cases findRow_ok found
  obtain ⟨productId, _, checked⟩ := bind_ok_iff.1 rest
  obtain ⟨_, _, same⟩ := bind_ok_iff.1 checked
  cases same
  exact ⟨_, rfl, { Overlay.ChangesOnly.refl _ _ with
    swaps := fun _ left => OrderedMap.filterKeys_insert left productId }⟩

theorem planRemoveItem_setsOnly (distinct : s.store.overlay.removed.Nodup) :
    s.SetsOnly id (s.planRemoveItem (.str id)) := by
  intro store planned
  unfold planRemoveItem at planned
  obtain ⟨item, found, same⟩ := bind_ok_iff.1 planned
  cases same
  cases findRow_ok found
  exact ⟨_, rfl, { Overlay.ChangesOnly.refl _ _ with
    removed := filter_eraseDups_append distinct }⟩

end Plans

/-- A write to a row plans a store in which nothing else was set. -/
theorem planRow_setsOnly (distinct : s.store.overlay.removed.Nodup) {w : Write}
    (sets : w.SetsRow id) (tag : String) :
    ∃ plan, s.write tag w = s.carryOut plan ∧ s.SetsOnly id plan := by
  rw [write_eq]
  cases sets with
  | price value => exact ⟨_, rfl, planPrice_setsOnly value⟩
  | markup value => exact ⟨_, rfl, planMarkup_setsOnly value⟩
  | hours role value => exact ⟨_, rfl, planHours_setsOnly role value⟩
  | quantity value => exact ⟨_, rfl, planQuantity_setsOnly value⟩
  | swap product => exact ⟨_, rfl, planSwap_setsOnly product⟩
  | removal => exact ⟨_, rfl, planRemoveItem_setsOnly distinct⟩

end Session

/-! ## Edits -/

/-- The stores are the same but for one selected package, which the second has, and its rows. -/
structure Store.Edited (i : String) (before after : Store) : Prop where
  selected : after.instances.contains i = true
  instances : after.instances.erase i = before.instances
  overlay : after.overlay.dropRows (i ++ "-") = before.overlay
  location : after.location = before.location
  rates : after.rateDiagnostics = before.rateDiagnostics
  globals : after.globals = before.globals
  wages : after.wages = before.wages

/-- Without the package and what is set for its rows the edited store is the store before. -/
theorem Store.Edited.restores {i : String} {before after : Store} (edited : before.Edited i after) :
    { after with
      instances := after.instances.erase i
      overlay := after.overlay.dropRows (i ++ "-") } = before := by
  obtain ⟨location, rates, globals, instances, overlay, wages⟩ := before
  obtain ⟨-, instances, overlay, rfl, rfl, rfl, rfl⟩ := edited
  dsimp only at instances overlay
  rw [instances, overlay]

namespace Session

/-- `Edits i start s`: any number of writes to parameters of one selected package and to displayed rows
of it lead from `start` to `s`, whatever their outcomes. -/
inductive Edits (i : String) (start : Session) : Session → Prop
  | refl : Edits i start start
  | param {s : Session} (tag : String) (key value : Value) : Edits i start s →
      Edits i start (s.write tag (.setLocal (.str i) key value)).2
  | row {s : Session} {row : LineItem} {w : Write} (tag : String) : Edits i start s →
      row ∈ s.rows → row.instanceId = i → w.SetsRow row.id → Edits i start (s.write tag w).2

variable {start s t u : Session} {i : String} {before : Store}

theorem Edits.run (edits : Edits i t u) (run : Run anyOutcome start t) : Run anyOutcome start u := by
  induction edits with
  | refl => exact run
  | param tag key value _ ih => exact .write ih trivial
  | row tag _ _ _ _ ih => exact .write ih trivial

theorem edited_of_param (edited : before.Edited i s.store) (tag : String) (key value : Value) :
    before.Edited i (s.write tag (.setLocal (.str i) key value)).2.store := by
  rw [write_eq]
  refine carryOut_keeps edited fun store planned => ?_
  unfold planLocal at planned
  obtain ⟨⟨id, selection⟩, found, planned⟩ := bind_ok_iff.1 planned
  cases instanceKey_ok (selectionAt_ok found).1
  obtain ⟨_, _, same⟩ := bind_ok_iff.1 planned
  cases same
  exact { edited with
    selected := OrderedMap.contains_insert _ _ _
    instances := (OrderedMap.erase_insert _ _ _).trans edited.instances }

theorem edited_of_row (distinct : s.store.overlay.removed.Nodup) (edited : before.Edited i s.store)
    {id : String} (own : id.startsWith (i ++ "-") = true) {w : Write} (sets : w.SetsRow id)
    (tag : String) : before.Edited i (s.write tag w).2.store := by
  obtain ⟨plan, written, only⟩ := planRow_setsOnly distinct sets tag
  rw [written]
  refine carryOut_keeps edited fun store planned => ?_
  obtain ⟨overlay, rfl, changes⟩ := only store planned
  exact { edited with overlay := (changes.dropRows own).trans edited.overlay }

/-- After any edits of one package the rest of the store is as it was. -/
theorem Edits.edited {source : Source} {asked : Value}
    (loaded : Session.load source asked = .ok start) (run : Run anyOutcome start t)
    (edits : Edits i t u) (edited : before.Edited i t.store) : before.Edited i u.store := by
  induction edits with
  | refl => exact edited
  | param tag key value _ ih => exact edited_of_param ih tag key value
  | @row s row w tag edits shown own sets ih =>
    have reached := edits.run run
    obtain ⟨productId, named⟩ := rows_named (run_displays loaded reached) shown
    have starts : row.id.startsWith (i ++ "-") = true := by
      rw [named, own]
      exact lineItemId_startsWith i productId
    exact edited_of_row (run_valid loaded reached).2.overlay.removed ih starts sets tag

/-! ## Removing the edited package -/

/-- A selected package with a new id is all that the store has in addition. -/
theorem edited_of_selected {tag : String} {packageId : Value}
    (unselected : s.store.instances.contains (instanceId packageId tag) = false)
    (unset : ∀ id ∈ s.store.overlay.ids, id.startsWith (instanceId packageId tag ++ "-") = false)
    (selected : s.write tag (.selectPackage packageId) = (.ok (), t)) :
    s.store.Edited (instanceId packageId tag) t.store := by
  rw [write_eq] at selected
  obtain ⟨store, planned, _, same⟩ := carryOut_ok selected
  rw [same]
  unfold planSelect at planned
  obtain ⟨selection, _, same⟩ := bind_ok_iff.1 planned
  cases same
  exact {
    selected := OrderedMap.contains_insert _ _ _
    instances := (OrderedMap.erase_insert _ _ _).trans (OrderedMap.erase_of_not_contains unselected)
    overlay := Overlay.dropRows_eq_self unset
    location := rfl
    rates := rfl
    globals := rfl
    wages := rfl }

/-- Removing a package from a store that has it in addition to a shown one shows that one again. -/
theorem removeInstance_edited (fresh : s.store.display s.reference = .ok s.display)
    (reference : u.reference = s.reference) (edited : s.store.Edited i u.store) (tag : String) :
    u.write tag (.removeInstance (.str i)) = (.ok (), s) := by
  have planned : u.planRemoveInstance (.str i) = .ok s.store := by
    have found : u.instanceKey (.str i) = .ok i := if_pos edited.selected
    unfold planRemoveInstance
    rw [found]
    exact congrArg Except.ok (edited.restores)
  rw [write_eq]
  show u.carryOut (u.planRemoveInstance (.str i)) = (.ok (), s)
  unfold carryOut commit
  rw [planned]
  dsimp only
  rw [reference, fresh]

/-- A package is selected under a new id, and nothing is set for rows whose ids start with that id and a
dash. Then removing it, after any edits of it and its rows, ends in the session before. -/
theorem removeInstance_undoes {source : Source} {asked packageId : Value} {tag again : String}
    (loaded : Session.load source asked = .ok start) (run : Run settled start s)
    (unselected : s.store.instances.contains (instanceId packageId tag) = false)
    (unset : ∀ id ∈ s.store.overlay.ids, id.startsWith (instanceId packageId tag ++ "-") = false)
    (selected : s.write tag (.selectPackage packageId) = (.ok (), t))
    (edits : Edits (instanceId packageId tag) t u) :
    u.write again (.removeInstance (.str (instanceId packageId tag))) = (.ok (), s) := by
  have reached : Run anyOutcome start t := by
    have next : (s.write tag (.selectPackage packageId)).2 = t := by rw [selected]
    exact next ▸ .write (run.mono fun _ _ _ => trivial) trivial
  have reference : u.reference = s.reference :=
    (run_reference (edits.run reached)).trans (run_reference run).symm
  exact removeInstance_edited (run_fresh loaded run) reference
    (edits.edited loaded reached (edited_of_selected unselected unset selected)) again

/-! ## A package edited in two ways -/

/-- The write sets a parameter of the package, or something for a displayed row of it. -/
def isEdit (s : Session) (i : String) (w : Write) : Bool :=
  match w with
  | .setLocal (.str key) _ _ => key = i
  | .setPrice (.str key) _ | .setMarkup (.str key) _ | .setHours (.str key) _ _
  | .setQuantity (.str key) _ | .swap (.str key) _ | .removeItem (.str key) =>
    s.rows.any fun row => row.id = key ∧ row.instanceId = i
  | _ => false

/-- Each of the writes is one of these when its turn comes. -/
def areEdits (s : Session) (i : String) : List (String × Write) → Bool
  | [] => true
  | (tag, w) :: rest => s.isEdit i w && (s.write tag w).2.areEdits i rest

theorem Edits.of_isEdit {w : Write} {tag : String} (edits : Edits i t s)
    (edit : s.isEdit i w = true) : Edits i t (s.write tag w).2 := by
  have row : ∀ {id}, w.SetsRow id →
      (s.rows.any fun row => row.id = id ∧ row.instanceId = i) = true →
      Edits i t (s.write tag w).2 := by
    intro id sets some
    obtain ⟨row, shown, own⟩ := List.any_eq_true.1 some
    obtain ⟨named, own⟩ := of_decide_eq_true own
    exact .row tag edits shown own (named ▸ sets)
  unfold isEdit at edit
  split at edit
  · cases of_decide_eq_true edit
    exact .param tag _ _ edits
  · exact row (.price _) edit
  · exact row (.markup _) edit
  · exact row (.hours _ _) edit
  · exact row (.quantity _) edit
  · exact row (.swap _) edit
  · exact row .removal edit
  · cases edit

theorem Edits.of_areEdits {writes : List (String × Write)} (edits : Edits i t s)
    (all : s.areEdits i writes = true) : Edits i t (s.after writes) := by
  induction writes generalizing s with
  | nil => exact edits
  | cons first rest ih =>
    obtain ⟨edit, others⟩ := (Bool.and_eq_true ..).mp all
    exact ih (edits.of_isEdit edit) others

/-- A second package: its room, a price and hours of its row, and the row removed. -/
def secondPackage : List (String × Write) := [
  ("", .setLocal (.str "1-00000002") (.str "raumgroesse") (.int 40)),
  ("", .setPrice (.str "1-00000002-STD") (.str "7,50")),
  ("", .setHours (.str "1-00000002-STD") (.str "meister") (.float 0.25)),
  ("", .setMarkup (.str "1-00000002-STD") (.int 500)),
  ("", .removeItem (.str "1-00000002-STD"))]

/-- The outcome of selecting a second package, and the session after it. -/
def withSecond (s : Session) : Written := s.write "00000002" (.selectPackage (.int 1))

theorem secondPackage_edits : (Session.load twoLocations .null).toOption.map (fun start =>
    let s := start.after someWrites
    (start.settles someWrites && s.withSecond.1.isOk &&
        s.withSecond.2.areEdits "1-00000002" secondPackage,
      s.store.instances.contains "1-00000002",
      s.store.overlay.ids.all fun id => !id.startsWith "1-00000002-",
      (s.withSecond.2.after secondPackage).store.overlay.removed)) =
    some (true, false, true, ["1-00000002-STD"]) := by decide +kernel

/-- Removing the second package, with the price, the hours and the removal of its row, ends in the
session before it was selected. -/
theorem secondPackage_undone : ∃ start s t u, Session.load twoLocations .null = .ok start ∧
    Run settled start s ∧ s.write "00000002" (.selectPackage (.int 1)) = (.ok (), t) ∧
    Edits (instanceId (.int 1) "00000002") t u ∧
    u.store.overlay.removed = ["1-00000002-STD"] ∧
    u.write "" (.removeInstance (.str (instanceId (.int 1) "00000002"))) = (.ok (), s) := by
  obtain ⟨start, loaded, facts⟩ := toOption_map_eq_some_iff.1 secondPackage_edits
  obtain ⟨done, facts⟩ := Prod.mk.inj facts
  obtain ⟨unselected, facts⟩ := Prod.mk.inj facts
  obtain ⟨unset, removed⟩ := Prod.mk.inj facts
  rw [Bool.and_eq_true, Bool.and_eq_true] at done
  obtain ⟨⟨settles, done⟩, edits⟩ := done
  have run : Run settled start (start.after someWrites) :=
    run_of_settles (fun _ _ _ settled => settled) .refl settles
  obtain ⟨t, selected⟩ := done_of_isOk done
  rw [selected] at edits removed
  dsimp only at edits removed
  have named : instanceId (.int 1) "00000002" = "1-00000002" := by decide +kernel
  have made : Edits (instanceId (.int 1) "00000002") t (t.after secondPackage) :=
    named ▸ Edits.of_areEdits .refl edits
  refine ⟨start, _, t, _, loaded, run, selected, made, removed, ?_⟩
  refine removeInstance_undoes loaded run (named ▸ unselected) ?_ selected made
  intro id listed
  rw [named]
  simpa using List.all_eq_true.1 unset id listed

end Session

end WiringQuote
