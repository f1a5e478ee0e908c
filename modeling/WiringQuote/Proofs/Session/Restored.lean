import WiringQuote.Proofs.OrderedMap
import WiringQuote.Proofs.Session.Run

/-!
# What a restored state leaves set

Each entry of a saved state is cleaned on its own, and one that could not be set is left out. So what
is restored for a row, or for a role of a row, depends on the entry for it alone.

* `acceptEntries_get?`, `acceptHours_get?`: what is restored under a key.
* `Restores.of_steps`: what the overlay holds once all steps are carried out.
-/

namespace WiringQuote

open Fallible

/-! ## Entries by key -/

/-- A loop over entries with distinct keys, in which each entry decides what is read under its own key
and under no other. -/
theorem OrderedMap.foldlM_read {ε κ α β σ : Type} [DecidableEq κ] {f : σ → κ × α → Except ε σ}
    {entries : List (κ × α)} {init final : σ} (key : κ) (read : σ → β) {absent : β} (given : α → β)
    (distinct : (entries.map Prod.fst).Nodup) (start : read init = absent)
    (own : ∀ a state next, read state = absent → f state (key, a) = .ok next → read next = given a)
    (others : ∀ entry state next, entry.1 ≠ key → f state entry = .ok next → read next = read state)
    (run : entries.foldlM f init = .ok final) :
    read final = (lookup key entries).elim absent given := by
  induction entries generalizing init with
  | nil =>
    cases run
    exact start
  | cons head rest ih =>
    obtain ⟨k, a⟩ := head
    rw [List.map_cons, List.nodup_cons] at distinct
    rw [List.foldlM_cons] at run
    obtain ⟨next, step, after⟩ := bind_ok_iff.1 run
    rw [lookup]
    by_cases same : k = key
    · subst same
      -- The later entries have other keys, so that what is read stays.
      have stays : ∀ entry ∈ rest, ∀ state later, read state = given a →
          f state entry = .ok later → read later = given a := by
        intro entry listed state later before done
        have other : entry.1 ≠ k := fun same => distinct.1 (List.mem_map.2 ⟨entry, listed, same⟩)
        exact (others entry state later other done).trans before
      rw [if_pos rfl]
      exact @foldlM_induction _ _ _ f (fun state => read state = given a) _ _ _ after
        (own a init next start step) stays
    · rw [if_neg same]
      exact ih distinct.2 ((others (k, a) init next same step).trans start) after

theorem Role.ofName?_eq_some_iff {s : String} {role : Role} :
    Role.ofName? s = some role ↔ s = role.name := by
  constructor
  · intro found
    exact (by simpa using List.find?_some found : role.name = s).symm
  · rintro rfl
    cases role <;> rfl

namespace SavedState

/-! ## Cleaned entries -/

section Cleaned

variable {clean : Value → Except OverrideFault Float}

/-- The number that an entry of a saved state is cleaned to, if it could be set. -/
def cleanedEntry (clean : Value → Except OverrideFault Float) (x : Float) : Option Float :=
  (clean (.float x)).toOption

/-- Under a key is what its entry is cleaned to. -/
theorem acceptEntries_get? {saved entries : OrderedMap String Float}
    (accepted : acceptEntries clean (asValues saved) = .ok entries) (key : String) :
    entries.get? key = (saved.get? key).bind (cleanedEntry clean) := by
  have distinct : ((asValues saved).map Prod.fst).Nodup := by
    unfold asValues
    rw [List.map_map]
    exact saved.nodup
  have read := OrderedMap.foldlM_read key (·.get? key) (fun value => (clean value).toOption) distinct
    (OrderedMap.get?_empty key) ?own ?others accepted
  case own =>
    intro value state next absent step
    dsimp only at step
    split at step
    · rename_i a cleaned
      cases step
      rw [OrderedMap.get?_insert, if_pos rfl, cleaned]
      rfl
    · cases step
    · rename_i refused
      cases step
      rw [absent, refused]
      rfl
  case others =>
    intro entry state next other step
    split at step
    · cases step
      exact (OrderedMap.get?_insert ..).trans (if_neg other)
    · cases step
    · cases step
      rfl
  rw [read, asValues, OrderedMap.lookup_map]
  unfold OrderedMap.get?
  cases OrderedMap.lookup key saved.entries <;> rfl

/-- A role has what the entry with its name is cleaned to. -/
theorem acceptRoles_get {saved : OrderedMap String Float} {figures : PerRole (Option Float)}
    (accepted : acceptRoles clean saved = .ok figures) (role : Role) :
    figures.get role = (saved.get? role.name).bind (cleanedEntry clean) := by
  have nothing : (PerRole.const none : PerRole (Option Float)).get role = none := by
    cases role <;> rfl
  have read := OrderedMap.foldlM_read role.name (·.get role) (cleanedEntry clean) saved.nodup nothing
    ?own ?others accepted
  case own =>
    intro x state next absent step
    rw [Role.ofName?_eq_some_iff.2 rfl] at step
    dsimp only at step
    unfold cleanedEntry
    split at step
    · rename_i y cleaned
      cases step
      rw [PerRole.get_set, if_pos rfl, cleaned]
      rfl
    · cases step
    · rename_i refused
      cases step
      rw [absent, refused]
      rfl
  case others =>
    intro entry state next other step
    split at step
    · cases step
      rfl
    · rename_i named found
      have apart : ¬ role = named := fun same => other (same ▸ Role.ofName?_eq_some_iff.1 found)
      split at step
      · cases step
        exact (PerRole.get_set ..).trans (if_neg apart)
      · cases step
      · cases step
        rfl
  rw [read]
  unfold OrderedMap.get?
  cases OrderedMap.lookup role.name saved.entries <;> rfl

end Cleaned

/-- A role of a row has what the entry with its name under the id of the row is cleaned to. -/
theorem acceptHours_get? {saved : OrderedMap String (OrderedMap String Float)}
    {hours : OrderedMap String (PerRole (Option Float))} (accepted : acceptHours saved = .ok hours)
    (key : String) (role : Role) :
    (hours.get? key).bind (·.get role) =
      ((saved.get? key).bind (·.get? role.name)).bind (cleanedEntry Override.hours) := by
  have read := OrderedMap.foldlM_read key (fun m => (m.get? key).bind (·.get role))
    (fun roles => (roles.get? role.name).bind (cleanedEntry Override.hours)) saved.nodup rfl
    ?own ?others accepted
  case own =>
    intro roles state next absent step
    obtain ⟨figures, ofRoles, same⟩ := bind_ok_iff.1 step
    cases same
    rw [← acceptRoles_get ofRoles role]
    split
    · rename_i nothing
      rw [absent, nothing]
      cases role <;> rfl
    · rw [OrderedMap.get?_insert, if_pos rfl, Option.bind_some]
  case others =>
    intro entry state next other step
    obtain ⟨figures, _, same⟩ := bind_ok_iff.1 step
    cases same
    split
    · rfl
    · rw [OrderedMap.get?_insert, if_neg other]
  rw [read]
  unfold OrderedMap.get?
  cases OrderedMap.lookup key saved.entries <;> rfl

/-! ## The overlay -/

/-- The overlay holds what was saved, as far as it could be set. -/
structure Restores (saved : SavedState) (overlay : Overlay) : Prop where
  prices : ∀ id, overlay.prices.get? id =
    (saved.prices.get? id).bind (cleanedEntry Override.price)
  markups : ∀ id, overlay.markups.get? id =
    (saved.markups.get? id).bind (cleanedEntry Override.markup)
  hours : ∀ id role, (overlay.hours.get? id).bind (·.get role) =
    ((saved.hours.get? id).bind (·.get? role.name)).bind (cleanedEntry Override.hours)
  removed : ∀ id, id ∈ overlay.removed ↔ id ∈ saved.removed

theorem Restores.of_steps {reference : Reference} {saved : SavedState} {store final : Store}
    (run : StoreStep.run (saved.steps reference) store = (.ok (), final)) :
    saved.Restores final.overlay := by
  unfold steps at run
  obtain ⟨_, _, run⟩ := StoreStep.run_append_ok_iff.1 run
  simp only [StoreStep.run_cons_ok_iff] at run
  obtain ⟨_, ofPrices, _, ofMarkups, _, ofQuantities, _, ofHours, _, ofWages, _, ofSwaps, _, ofRemoved,
    done⟩ := run
  obtain ⟨prices, acceptedPrices, same⟩ := bind_ok_iff.1 ofPrices
  cases same
  obtain ⟨markups, acceptedMarkups, same⟩ := bind_ok_iff.1 ofMarkups
  cases same
  obtain ⟨_, _, same⟩ := bind_ok_iff.1 ofQuantities
  cases same
  obtain ⟨hours, acceptedHours, same⟩ := bind_ok_iff.1 ofHours
  cases same
  obtain ⟨_, _, same⟩ := bind_ok_iff.1 ofWages
  cases same
  cases ofSwaps
  cases ofRemoved
  cases done
  exact ⟨acceptEntries_get? acceptedPrices, acceptEntries_get? acceptedMarkups,
    acceptHours_get? acceptedHours, fun _ => List.mem_eraseDups⟩

end SavedState

end WiringQuote
