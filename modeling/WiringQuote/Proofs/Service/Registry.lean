import Mathlib.Data.List.Nodup
import WiringQuote.Proofs.Decimal.Order
import WiringQuote.Proofs.Fallible
import WiringQuote.Proofs.OrderedMap
import WiringQuote.Service.Registry

/-!
# What opening a session drops

Opening a session goes through both tables of the registry: the session is written to them, the idle
sessions are taken out, and then the least recently used ones as long as there are too many.

* `InStep`: the two tables list the same sessions; whatever is done to the registry keeps that.
* `excess_least`: a session that is dropped for being too many was used no later than one that stays.
* `newest_not_excess`: the session that was used last and opened last is not among them.
* `size_withoutExcess`: afterwards there are no more sessions than allowed.
* `add_added`: what all this comes to for a new session.
-/

namespace WiringQuote.Service

open Decimal Fallible

/-! ## Sorted lists -/

section Sorting

variable {α : Type} {le : α → α → Bool} {xs : List α}

theorem filter_not_mem_take [DecidableEq α] (distinct : xs.Nodup) (k : Nat) :
    xs.filter (fun x => !(xs.take k).contains x) = xs.drop k := by
  obtain ⟨_, _, apart⟩ := List.nodup_append.1 ((xs.take_append_drop k).symm ▸ distinct)
  have none : (xs.take k).filter (fun x => !(xs.take k).contains x) = [] :=
    List.filter_eq_nil_iff.2 fun x taken => by simp [taken]
  have all : (xs.drop k).filter (fun x => !(xs.take k).contains x) = xs.drop k :=
    List.filter_eq_self.2 fun x left => by simpa using fun taken => apart x taken x left rfl
  calc xs.filter (fun x => !(xs.take k).contains x)
      = (xs.take k ++ xs.drop k).filter (fun x => !(xs.take k).contains x) := by
        rw [List.take_append_drop]
    _ = xs.drop k := by rw [List.filter_append, none, all, List.nil_append]

theorem le_of_mem_take_of_mem_drop (trans : ∀ a b c, le a b = true → le b c = true → le a c = true)
    (total : ∀ a b, (le a b || le b a) = true) {k : Nat} {a b : α}
    (taken : a ∈ (xs.mergeSort le).take k) (left : b ∈ (xs.mergeSort le).drop k) :
    le a b = true := by
  have sorted := List.pairwise_mergeSort trans total xs
  rw [← (xs.mergeSort le).take_append_drop k] at sorted
  exact (List.pairwise_append.1 sorted).2.2 a taken b left

/-- The sort is stable: what is no less than the others and stands behind them comes last. -/
theorem not_mem_take_mergeSort (trans : ∀ a b c, le a b = true → le b c = true → le a c = true)
    (total : ∀ a b, (le a b || le b a) = true) {x : α} (distinct : (xs ++ [x]).Nodup)
    (greatest : ∀ y ∈ xs, le y x = true) {k : Nat} (few : k ≤ xs.length) :
    x ∉ ((xs ++ [x]).mergeSort le).take k := by
  have parts := ((xs ++ [x]).mergeSort le).take_append_drop k
  have sameElements := List.mergeSort_perm (xs ++ [x]) le
  have apart : ∀ a ∈ ((xs ++ [x]).mergeSort le).take k,
      ∀ b ∈ ((xs ++ [x]).mergeSort le).drop k, a ≠ b :=
    (List.nodup_append.1 (parts.symm ▸ sameElements.nodup_iff.2 distinct)).2.2
  intro taken
  -- Something is left behind the first ones, and it stood before `x`.
  have left : 0 < (((xs ++ [x]).mergeSort le).drop k).length := by
    rw [List.length_drop, List.length_mergeSort, List.length_append, List.length_singleton]
    exact Nat.sub_pos_of_lt (Nat.lt_succ_of_le few)
  obtain ⟨y, later⟩ := List.exists_mem_of_length_pos left
  have present : y ∈ xs := by
    have listed := sameElements.subset (List.mem_of_mem_drop later)
    rcases List.mem_append.1 listed with before | own
    · exact before
    · exact absurd (List.mem_singleton.1 own).symm (apart x taken y later)
  have inOrder : List.Sublist [y, x] ((xs ++ [x]).mergeSort le) := by
    refine List.sublist_mergeSort trans total ?_ ?_
    · exact List.pairwise_pair.2 (greatest y present)
    · exact (List.singleton_sublist.2 present).append (List.Sublist.refl [x])
  rw [← parts] at inOrder
  obtain ⟨front, back, split, inTaken, inLeft⟩ := List.sublist_append_iff.1 inOrder
  cases front with
  | nil =>
    rw [List.nil_append] at split
    subst split
    exact apart x taken x (inLeft.subset (by simp)) rfl
  | cons z rest =>
    rw [List.cons_append] at split
    obtain ⟨rfl, _⟩ := List.cons.inj split
    exact apart y (inTaken.subset (by simp)) y later rfl

end Sorting

namespace Registry

variable {registry : Registry} {ids : List String} {id : String} {session : Session} {now : Float}

/-! ## Both tables -/

/-- Both tables list the same sessions in the same order. -/
def InStep (registry : Registry) : Prop := registry.opened.keys = registry.lastUses.keys

theorem InStep.keys_eq (inStep : InStep registry) :
    registry.opened.keys = registry.lastUses.keys := inStep

/-- No session was used later than at a time. -/
def UsedBy (now : Float) (registry : Registry) : Prop :=
  registry.lastUses.Each fun _ lastUse => lastUse ≤ now

theorem closeAll_tables (registry : Registry) (ids : List String) :
    (registry.closeAll ids).opened = registry.opened.filterKeys (fun id => !ids.contains id) ∧
      (registry.closeAll ids).lastUses =
        registry.lastUses.filterKeys fun id => !ids.contains id := by
  induction ids generalizing registry with
  | nil => exact ⟨(OrderedMap.filterKeys_eq_self (by simp)).symm,
      (OrderedMap.filterKeys_eq_self (by simp)).symm⟩
  | cons first rest ih =>
    have keep : (fun id => !(first :: rest).contains id) =
        fun id => !decide (id = first) && !rest.contains id := by
      funext id
      simp
    obtain ⟨opened, lastUses⟩ := ih (registry.close first)
    rw [keep, ← OrderedMap.filterKeys_filterKeys, ← OrderedMap.filterKeys_filterKeys]
    exact ⟨opened, lastUses⟩

theorem get?_closeAll_opened (other : String) : (registry.closeAll ids).opened.get? other =
    if other ∈ ids then none else registry.opened.get? other := by
  rw [(closeAll_tables registry ids).1, OrderedMap.get?_filterKeys]
  by_cases listed : other ∈ ids <;> simp [listed]

theorem get?_closeAll_lastUses (other : String) : (registry.closeAll ids).lastUses.get? other =
    if other ∈ ids then none else registry.lastUses.get? other := by
  rw [(closeAll_tables registry ids).2, OrderedMap.get?_filterKeys]
  by_cases listed : other ∈ ids <;> simp [listed]

theorem mem_closeAll_iff {other : String} :
    other ∈ (registry.closeAll ids).opened.keys ↔ other ∈ registry.opened.keys ∧ other ∉ ids := by
  rw [(closeAll_tables registry ids).1, OrderedMap.mem_keys_filterKeys_iff]
  simp

theorem use_self (registry : Registry) (id : String) (session : Session) (now : Float) :
    (registry.use id session now).opened.get? id = some session ∧
      (registry.use id session now).lastUses.get? id = some now := by
  unfold Registry.use
  rw [OrderedMap.get?_insert, OrderedMap.get?_insert, if_pos rfl, if_pos rfl]
  exact ⟨rfl, rfl⟩

/-- Using a session leaves the others as they are. -/
theorem use_of_ne {other : String} (different : other ≠ id) :
    (registry.use id session now).opened.get? other = registry.opened.get? other ∧
      (registry.use id session now).lastUses.get? other = registry.lastUses.get? other := by
  unfold Registry.use
  rw [OrderedMap.get?_insert, OrderedMap.get?_insert, if_neg different.symm, if_neg different.symm]
  exact ⟨rfl, rfl⟩

/-- So does closing one. -/
theorem close_of_ne {other : String} (different : other ≠ id) :
    (registry.close id).opened.get? other = registry.opened.get? other ∧
      (registry.close id).lastUses.get? other = registry.lastUses.get? other := by
  unfold close OrderedMap.erase
  simp [different]

theorem InStep.use (inStep : InStep registry) : InStep (registry.use id session now) := by
  unfold InStep Registry.use
  rw [OrderedMap.keys_insert, OrderedMap.keys_insert, inStep.keys_eq]

theorem InStep.closeAll (inStep : InStep registry) : InStep (registry.closeAll ids) := by
  unfold InStep
  rw [(closeAll_tables registry ids).1, (closeAll_tables registry ids).2, OrderedMap.keys_filterKeys,
    OrderedMap.keys_filterKeys, inStep.keys_eq]

theorem InStep.close (inStep : InStep registry) : InStep (registry.close id) := by
  have closed : InStep (registry.closeAll [id]) := inStep.closeAll
  exact closed

theorem UsedBy.use (used : UsedBy now registry) (number : now.isNaN = false) :
    UsedBy now (registry.use id session now) := OrderedMap.Each.insert used (le_self number)

theorem UsedBy.closeAll (used : UsedBy now registry) : UsedBy now (registry.closeAll ids) := by
  unfold UsedBy
  rw [(closeAll_tables registry ids).2]
  exact OrderedMap.Each.filterKeys used _

theorem UsedBy.close (used : UsedBy now registry) : UsedBy now (registry.close id) :=
  OrderedMap.Each.erase used id

theorem UsedBy.mono {later : Float} (used : UsedBy now registry) (le : now ≤ later) :
    UsedBy later registry := fun other lastUse found => le_trans (used other lastUse found) le

/-! ## Idle sessions -/

theorem mem_idle_iff {seconds : Float} : id ∈ registry.idle now seconds ↔
    ∃ lastUse, registry.lastUses.get? id = some lastUse ∧ seconds < now - lastUse := by
  unfold idle OrderedMap.keys OrderedMap.filter isIdle
  constructor
  · intro listed
    obtain ⟨⟨_, lastUse⟩, kept, rfl⟩ := List.mem_map.1 listed
    obtain ⟨present, idle⟩ := List.mem_filter.1 kept
    exact ⟨lastUse, OrderedMap.mem_entries_iff.1 present, of_decide_eq_true idle⟩
  · rintro ⟨lastUse, found, idle⟩
    refine List.mem_map.2 ⟨(id, lastUse), List.mem_filter.2 ⟨?_, decide_eq_true idle⟩, rfl⟩
    exact OrderedMap.mem_entries_iff.2 found

/-! ## The least recently used sessions -/

/-- The order of last uses, made total. -/
def earlier (a b : String × Float) : Bool := decide (rank a.2 ≤ rank b.2)

theorem earlier_trans (a b c : String × Float) (first : earlier a b = true)
    (second : earlier b c = true) : earlier a c = true :=
  decide_eq_true ((of_decide_eq_true first).trans (of_decide_eq_true second))

theorem earlier_total (a b : String × Float) : (earlier a b || earlier b a) = true := by
  unfold earlier
  simpa using le_total (rank a.2) (rank b.2)

theorem UsedBy.number (used : UsedBy now registry) {lastUse : Float}
    (found : registry.lastUses.get? id = some lastUse) : lastUse.isNaN = false :=
  (isNumber_of_le (used id lastUse found)).1

/-- The last uses in their order; of those at one time the one of the session that was opened first. -/
def sortedUses (registry : Registry) : List (String × Float) :=
  registry.lastUses.entries.mergeSort earlier

theorem mem_sortedUses_iff {lastUse : Float} :
    (id, lastUse) ∈ registry.sortedUses ↔ registry.lastUses.get? id = some lastUse :=
  (List.mergeSort_perm _ _).mem_iff.trans OrderedMap.mem_entries_iff

/-- The sort of the ids only compares numbers. -/
theorem UsedBy.byUse_eq (used : UsedBy now registry) :
    registry.byUse = registry.sortedUses.map (·.1) := by
  have compared : ∀ a ∈ registry.lastUses.entries, ∀ b ∈ registry.lastUses.entries,
      decide (a.2 ≤ b.2) = earlier a b := by
    rintro ⟨idA, a⟩ listedA ⟨idB, b⟩ listedB
    have numberA := used.number (OrderedMap.mem_entries_iff.1 listedA)
    have numberB := used.number (OrderedMap.mem_entries_iff.1 listedB)
    refine decide_eq_decide.2 ?_
    rw [le_iff_rank]
    exact ⟨fun both => both.2.2, fun le => ⟨numberA, numberB, le⟩⟩
  have same := List.map_mergeSort (f := id) compared
  rw [List.map_id, List.map_id] at same
  unfold byUse sortedUses
  rw [same]

/-- How many sessions are too many. -/
def surplus (registry : Registry) (limit : Int) : Nat :=
  ((registry.opened.size : Int) - limit).toNat

theorem mem_excess_iff (used : UsedBy now registry) {limit : Int} : id ∈ registry.excess limit ↔
    ∃ lastUse, (id, lastUse) ∈ registry.sortedUses.take (registry.surplus limit) := by
  unfold excess
  rw [used.byUse_eq, ← List.map_take]
  constructor
  · intro listed
    obtain ⟨⟨id, lastUse⟩, taken, rfl⟩ := List.mem_map.1 listed
    exact ⟨lastUse, taken⟩
  · rintro ⟨lastUse, taken⟩
    exact List.mem_map_of_mem taken

theorem InStep.byUse_perm (inStep : InStep registry) : registry.byUse.Perm registry.opened.keys := by
  rw [inStep.keys_eq]
  exact (List.mergeSort_perm _ _).map _

theorem InStep.byUse_nodup (inStep : InStep registry) : registry.byUse.Nodup :=
  inStep.byUse_perm.nodup_iff.2 registry.opened.nodup

/-- A session that is dropped for being too many was used no later than one that stays. -/
theorem excess_least (used : UsedBy now registry) {limit : Int} {dropped survivor : String}
    {dropTime time : Float} (inExcess : dropped ∈ registry.excess limit)
    (notInExcess : survivor ∉ registry.excess limit)
    (droppedUse : registry.lastUses.get? dropped = some dropTime)
    (survivorUse : registry.lastUses.get? survivor = some time) : dropTime ≤ time := by
  obtain ⟨lastUse, taken⟩ := (mem_excess_iff used).1 inExcess
  obtain rfl : lastUse = dropTime :=
    Option.some.inj ((mem_sortedUses_iff.1 (List.mem_of_mem_take taken)).symm.trans droppedUse)
  have left : (survivor, time) ∈ registry.sortedUses.drop (registry.surplus limit) := by
    have present := mem_sortedUses_iff.2 survivorUse
    rw [← List.take_append_drop (registry.surplus limit) registry.sortedUses] at present
    refine (List.mem_append.1 present).resolve_left fun takenToo => ?_
    exact notInExcess ((mem_excess_iff used).2 ⟨time, takenToo⟩)
  have ordered := le_of_mem_take_of_mem_drop earlier_trans earlier_total taken left
  exact le_iff_rank.2
    ⟨used.number droppedUse, used.number survivorUse, of_decide_eq_true ordered⟩

theorem size_eq_length (registry : Registry) : registry.opened.size = registry.opened.keys.length :=
  (List.length_map _).symm

/-- The session that was used last and opened last is not too many, if one may be open. -/
theorem newest_not_excess (inStep : InStep registry) (used : UsedBy now registry)
    {others : List (String × Float)} (last : registry.lastUses.entries = others ++ [(id, now)])
    {limit : Int} (positive : 1 ≤ limit) : id ∉ registry.excess limit := by
  intro inExcess
  obtain ⟨lastUse, taken⟩ := (mem_excess_iff used).1 inExcess
  have newest : registry.lastUses.get? id = some now :=
    OrderedMap.mem_entries_iff.1 (last ▸ List.mem_append_right others (List.mem_singleton_self _))
  obtain rfl : lastUse = now :=
    Option.some.inj ((mem_sortedUses_iff.1 (List.mem_of_mem_take taken)).symm.trans newest)
  have distinct : registry.lastUses.entries.Nodup := List.Nodup.of_map _ registry.lastUses.nodup
  have few : registry.surplus limit ≤ others.length := by
    have size : registry.opened.size = others.length + 1 := by
      rw [size_eq_length, inStep.keys_eq]
      unfold OrderedMap.keys
      rw [List.length_map, last, List.length_append, List.length_singleton]
    unfold surplus
    omega
  have greatest : ∀ other ∈ others, earlier other (id, lastUse) = true := by
    rintro ⟨other, time⟩ listedOther
    have found : registry.lastUses.get? other = some time :=
      OrderedMap.mem_entries_iff.1 (last ▸ List.mem_append_left _ listedOther)
    exact decide_eq_true (le_iff_rank.1 (used other time found)).2.2
  unfold sortedUses at taken
  rw [last] at taken distinct
  exact not_mem_take_mergeSort earlier_trans earlier_total distinct greatest few taken

/-- Without the sessions that are too many there are no more than allowed. -/
theorem size_withoutExcess (inStep : InStep registry) {limit : Int} (nonneg : 0 ≤ limit) :
    ((registry.closeAll (registry.excess limit)).opened.size : Int) ≤ limit := by
  have perm := inStep.byUse_perm
  have left : (registry.closeAll (registry.excess limit)).opened.size =
      registry.opened.size - registry.surplus limit := by
    calc (registry.closeAll (registry.excess limit)).opened.size
        = (registry.opened.keys.filter fun id => !(registry.excess limit).contains id).length := by
          rw [size_eq_length, (closeAll_tables _ _).1, OrderedMap.keys_filterKeys]
      _ = (registry.byUse.filter fun id => !(registry.excess limit).contains id).length :=
          (perm.filter _).length_eq.symm
      _ = (registry.byUse.drop (registry.surplus limit)).length := by
          unfold excess
          rw [filter_not_mem_take inStep.byUse_nodup]
          rfl
      _ = registry.opened.size - registry.surplus limit := by
          rw [List.length_drop, perm.length_eq, size_eq_length]
  rw [left]
  unfold surplus
  omega

end Registry

/-! ## Dropping sessions -/

/-- No negative time may pass and at least one session may be open. -/
structure Bounds.Sound (bounds : Bounds) : Prop where
  idleSeconds : ¬ bounds.idleSeconds < 0
  sessions : 1 ≤ bounds.sessions

/-- Settings have least values, so the bounds that they give are sound. -/
theorem Bounds.sound_ofSettings {texts : OrderedMap String String} {settings : Settings}
    (read : Settings.ofTexts texts = .ok settings) : (Bounds.ofSettings settings).Sound := by
  unfold Settings.ofTexts at read
  obtain ⟨_, _, read⟩ := bind_ok_iff.1 read
  obtain ⟨seconds, _, read⟩ := bind_ok_iff.1 read
  obtain ⟨sessions, _, read⟩ := bind_ok_iff.1 read
  cases read
  refine ⟨not_ofInt_lt_zero ?_, le_max_left _ _⟩
  exact (by decide : (0 : Int) ≤ Settings.leastIdleSeconds).trans (le_max_left _ _)

/-- A session is dropped for being idle, or it is not idle and was used no later than all that stay, which
are not idle either. -/
def DroppedFairly (bounds : Bounds) (now lastUse : Float) (after : Registry) : Prop :=
  bounds.idleSeconds < now - lastUse ∨
    ∀ survivor time, after.lastUses.get? survivor = some time →
      ¬ bounds.idleSeconds < now - time ∧ lastUse ≤ time

/-- What is left when sessions are dropped. -/
structure Pruned (bounds : Bounds) (now : Float) (before after : Registry) : Prop where
  bounded : (after.opened.size : Int) ≤ bounds.sessions
  kept : ∀ id ∈ after.opened.keys, after.opened.get? id = before.opened.get? id ∧
    after.lastUses.get? id = before.lastUses.get? id
  dropped : ∀ id ∈ before.opened.keys, id ∉ after.opened.keys →
    ∃ lastUse, before.lastUses.get? id = some lastUse ∧ DroppedFairly bounds now lastUse after

/-- What opening a session makes of the registry. -/
structure Added (bounds : Bounds) (now : Float) (id : String) (session : Session)
    (before after : Registry) : Prop where
  bounded : (after.opened.size : Int) ≤ bounds.sessions
  opened : after.opened.get? id = some session
  used : after.lastUses.get? id = some now
  kept : ∀ other ∈ after.opened.keys, other ≠ id →
    after.opened.get? other = before.opened.get? other ∧
      after.lastUses.get? other = before.lastUses.get? other
  dropped : ∀ other ∈ before.opened.keys, other ∉ after.opened.keys →
    ∃ lastUse, before.lastUses.get? other = some lastUse ∧ DroppedFairly bounds now lastUse after

namespace Registry

section Prune

variable {registry : Registry} {bounds : Bounds} {now : Float} {id : String}

/-- Without the idle sessions. -/
def active (registry : Registry) (now seconds : Float) : Registry :=
  registry.closeAll (registry.idle now seconds)

theorem prune_eq (registry : Registry) (now : Float) (bounds : Bounds) :
    registry.prune now bounds = (registry.active now bounds.idleSeconds).closeAll
      ((registry.active now bounds.idleSeconds).excess bounds.sessions) := rfl

theorem prune_kept : id ∈ (registry.prune now bounds).opened.keys →
    (registry.prune now bounds).opened.get? id = registry.opened.get? id ∧
      (registry.prune now bounds).lastUses.get? id = registry.lastUses.get? id := by
  intro left
  rw [prune_eq, mem_closeAll_iff] at left
  obtain ⟨inActive, notInExcess⟩ := left
  have notIdle := (mem_closeAll_iff.1 inActive).2
  rw [prune_eq, get?_closeAll_opened, get?_closeAll_lastUses, if_neg notInExcess, if_neg notInExcess]
  unfold active
  rw [get?_closeAll_opened, get?_closeAll_lastUses, if_neg notIdle, if_neg notIdle]
  exact ⟨rfl, rfl⟩

/-- The sessions that stay are not idle. -/
theorem active_not_idle {seconds lastUse : Float}
    (found : (registry.active now seconds).lastUses.get? id = some lastUse) :
    ¬ seconds < now - lastUse := by
  intro idle
  unfold active at found
  rw [get?_closeAll_lastUses] at found
  split at found
  · cases found
  · rename_i notIdle
    exact notIdle (mem_idle_iff.2 ⟨lastUse, found, idle⟩)

theorem prune_dropped (inStep : InStep registry) (used : UsedBy now registry)
    (before : id ∈ registry.opened.keys) (notAfter : id ∉ (registry.prune now bounds).opened.keys) :
    ∃ lastUse, registry.lastUses.get? id = some lastUse ∧
      DroppedFairly bounds now lastUse (registry.prune now bounds) := by
  rw [prune_eq] at notAfter ⊢
  by_cases idle : id ∈ registry.idle now bounds.idleSeconds
  · obtain ⟨lastUse, found, tooLong⟩ := mem_idle_iff.1 idle
    exact ⟨lastUse, found, .inl tooLong⟩
  have inActive : id ∈ (registry.active now bounds.idleSeconds).opened.keys :=
    mem_closeAll_iff.2 ⟨before, idle⟩
  have inExcess : id ∈ (registry.active now bounds.idleSeconds).excess bounds.sessions := by
    by_contra notInExcess
    exact notAfter (mem_closeAll_iff.2 ⟨inActive, notInExcess⟩)
  have activeInStep : InStep (registry.active now bounds.idleSeconds) := inStep.closeAll
  obtain ⟨lastUse, found⟩ : ∃ lastUse,
      (registry.active now bounds.idleSeconds).lastUses.get? id = some lastUse := by
    rw [← Option.ne_none_iff_exists', ne_eq, OrderedMap.get?_eq_none_iff, not_not]
    rwa [← activeInStep.keys_eq]
  have foundBefore := found
  unfold active at foundBefore
  rw [get?_closeAll_lastUses, if_neg idle] at foundBefore
  refine ⟨lastUse, foundBefore, .inr fun survivor time survives => ?_⟩
  rw [get?_closeAll_lastUses] at survives
  split at survives
  · cases survives
  · rename_i notInExcess
    exact ⟨active_not_idle survives,
      excess_least used.closeAll inExcess notInExcess found survives⟩

theorem prune_pruned (inStep : InStep registry) (used : UsedBy now registry) (sound : bounds.Sound) :
    Pruned bounds now registry (registry.prune now bounds) where
  bounded := size_withoutExcess inStep.closeAll ((by decide : (0 : Int) ≤ 1).trans sound.sessions)
  kept := fun _ => prune_kept
  dropped := fun _ => prune_dropped inStep used

/-- The session that was used last and opened last stays open. -/
theorem newest_mem_prune (inStep : InStep registry) (used : UsedBy now registry)
    (sound : bounds.Sound) {others : List (String × Float)}
    (last : registry.lastUses.entries = others ++ [(id, now)]) :
    id ∈ (registry.prune now bounds).opened.keys := by
  have newest : registry.lastUses.get? id = some now :=
    OrderedMap.mem_entries_iff.1 (last ▸ List.mem_append_right others (List.mem_singleton_self _))
  have listed : id ∈ registry.opened.keys := by
    rw [inStep.keys_eq, ← OrderedMap.contains_iff]
    unfold OrderedMap.contains
    rw [newest]
    rfl
  have notIdle : id ∉ registry.idle now bounds.idleSeconds := by
    intro idle
    obtain ⟨lastUse, found, tooLong⟩ := mem_idle_iff.1 idle
    obtain rfl : now = lastUse := Option.some.inj (newest.symm.trans found)
    exact not_lt_sub_self sound.idleSeconds tooLong
  have stillLast : (registry.active now bounds.idleSeconds).lastUses.entries =
      others.filter (fun entry => !(registry.idle now bounds.idleSeconds).contains entry.1) ++
        [(id, now)] := by
    unfold active
    rw [(closeAll_tables _ _).2]
    show registry.lastUses.entries.filter _ = _
    rw [last, List.filter_append]
    simp [notIdle]
  rw [prune_eq, mem_closeAll_iff]
  exact ⟨mem_closeAll_iff.2 ⟨listed, notIdle⟩,
    newest_not_excess inStep.closeAll used.closeAll stillLast sound.sessions⟩

end Prune

/-! ## A new session -/

theorem add_added {registry : Registry} (inStep : InStep registry) {now : Float}
    (used : UsedBy now registry) (number : now.isNaN = false) {bounds : Bounds} (sound : bounds.Sound)
    {id : String} (fresh : id ∉ registry.opened.keys) (session : Session) :
    Added bounds now id session registry (registry.add id session now bounds) := by
  have freshUse : id ∉ registry.lastUses.keys := by
    rwa [← inStep.keys_eq]
  have newInStep : InStep (registry.use id session now) := inStep.use
  have newUsed : UsedBy now (registry.use id session now) := used.use number
  obtain ⟨bounded, kept, dropped⟩ := prune_pruned newInStep newUsed sound
  obtain ⟨opened, usedNow⟩ :=
    kept id (newest_mem_prune newInStep newUsed sound (OrderedMap.entries_insert freshUse now))
  refine ⟨bounded, opened.trans (use_self _ _ _ _).1, usedNow.trans (use_self _ _ _ _).2, ?_, ?_⟩
  · intro other stays different
    obtain ⟨sameSession, sameUse⟩ := kept other stays
    exact ⟨sameSession.trans (use_of_ne different).1, sameUse.trans (use_of_ne different).2⟩
  · intro other before notAfter
    have different : other ≠ id := fun same => fresh (same ▸ before)
    have beforeToo : other ∈ (registry.use id session now).opened.keys := by
      unfold Registry.use
      rw [OrderedMap.keys_insert, if_neg fresh]
      exact List.mem_append_left _ before
    obtain ⟨lastUse, found, fair⟩ := dropped other beforeToo notAfter
    exact ⟨lastUse, (use_of_ne different).2.symm.trans found, fair⟩

end Registry

end WiringQuote.Service
