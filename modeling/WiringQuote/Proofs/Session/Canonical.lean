import WiringQuote.Proofs.Session.Interrupted
import WiringQuote.Proofs.Session.Restore

/-!
# Canonical stores

Whatever was stored is in the one form that checking it again leaves it in, and within the bounds of
what a user may set.

* `Override.accepted_amount_iff`, `accepted_markup_iff`: the amounts and markups that are accepted.
* `Store.Valid.canonical`: a valid store is canonical.
* `Session.run_canonical`: the store of a reached session is canonical, whatever the outcomes were.
-/

namespace WiringQuote

open Decimal Fallible

/-! ## Settings -/

namespace Override

/-- A number that is not negative, to cents. -/
def IsAmount (x : Float) : Prop := ∃ given : Float, given.isFinite = true ∧ 0.0 ≤ given ∧
  x = roundCents given

/-- A percentage between the least and the largest markup, to two decimals. -/
def IsMarkup (x : Float) : Prop := ∃ given : Float, given.isFinite = true ∧ leastMarkup ≤ given ∧
  given ≤ largestMarkup ∧ x = roundCents given

variable {x : Float} {what : String}

theorem accepted_amount_iff : Accepted (amount what) x ↔ IsAmount x := by
  constructor
  · rintro ⟨value, cleaned⟩
    obtain ⟨given, read, cleaned⟩ := bind_ok_iff.1 cleaned
    dsimp only at cleaned
    split at cleaned
    · cases cleaned
    · rename_i notNegative
      cases cleaned
      have finite := number_isFinite read
      exact ⟨given, finite, (not_lt_zero_iff finite).1 notNegative, rfl⟩
  · rintro ⟨given, finite, least, rfl⟩
    refine ⟨.float given, ?_⟩
    unfold amount
    rw [number_float finite]
    exact if_neg ((not_lt_zero_iff finite).2 least)

theorem accepted_markup_iff : Accepted markup x ↔ IsMarkup x := by
  constructor
  · rintro ⟨value, cleaned⟩
    obtain ⟨given, read, cleaned⟩ := bind_ok_iff.1 cleaned
    split at cleaned
    · rename_i within
      cases cleaned
      rw [Bool.and_eq_true, decide_eq_true_eq, decide_eq_true_eq] at within
      exact ⟨given, number_isFinite read, within.1, within.2, rfl⟩
    · cases cleaned
  · rintro ⟨given, finite, least, most, rfl⟩
    refine ⟨.float given, ?_⟩
    unfold markup
    rw [number_float finite]
    refine if_pos ?_
    rw [Bool.and_eq_true, decide_eq_true_eq, decide_eq_true_eq]
    exact ⟨least, most⟩

/-- An accepted quantity is at least one. -/
theorem one_le_of_accepted {n : Int} (accepted : Accepted quantity n) : 1 ≤ n := by
  obtain ⟨value, cleaned⟩ := accepted
  exact (quantity_checks.fits cleaned).positive

end Override

/-! ## Figures of roles -/

/-- What is saved of the figures of roles is found under the names of the roles. -/
theorem Store.get?_namedRoles {figures : PerRole (Option Float)} {name : String} {x : Float} :
    (namedRoles figures).get? name = some x ↔
      ∃ role : Role, role.name = name ∧ figures.get role = some x := by
  rw [← OrderedMap.mem_entries_iff, SavedState.entries_namedRoles]
  unfold PerRole.toList
  constructor
  · intro listed
    obtain ⟨pair, present, named⟩ := List.mem_filterMap.1 listed
    obtain ⟨role, _, rfl⟩ := List.mem_map.1 present
    obtain ⟨y, found, same⟩ := Option.map_eq_some_iff.1 named
    cases same
    exact ⟨role, rfl, found⟩
  · rintro ⟨role, rfl, found⟩
    have every : role ∈ Role.all := by cases role <;> decide
    refine List.mem_filterMap.2 ⟨(role, figures.get role), List.mem_map_of_mem every, ?_⟩
    rw [found]
    rfl

theorem Store.keys_namedRoles_ne_nil {figures : PerRole (Option Float)}
    (some : figures ≠ .const none) : (namedRoles figures).keys ≠ [] := by
  intro empty
  have unset : ∀ role, figures.get role = none := by
    intro role
    rw [Option.eq_none_iff_forall_ne_some]
    intro x found
    have absent : (namedRoles figures).get? role.name = none :=
      OrderedMap.get?_eq_none_iff.2 (by rw [empty]; exact List.not_mem_nil)
    rw [get?_namedRoles.2 ⟨role, rfl, found⟩] at absent
    cases absent
  obtain ⟨meister, geselle, monteur⟩ := figures
  cases unset .meister
  cases unset .geselle
  cases unset .monteur
  exact some rfl

/-- Amounts under the names of roles. -/
def RoleAmounts (figures : OrderedMap String Float) : Prop :=
  figures.Each fun name x => (Role.ofName? name).isSome = true ∧ Override.IsAmount x

theorem roleAmounts_of_accepted {what : String} {figures : PerRole (Option Float)}
    (accepted : FiguresAccepted (Override.amount what) figures) :
    RoleAmounts (Store.namedRoles figures) := by
  intro name x found
  obtain ⟨role, rfl, figure⟩ := Store.get?_namedRoles.1 found
  rw [SavedState.ofName?_name]
  exact ⟨rfl, Override.accepted_amount_iff.1 (accepted role x figure)⟩

/-! ## Stores -/

/-- A package of the catalog. Its parameters are ones that it is linked to, with values that coercing
them again leaves as they are. -/
structure Selection.Canonical (catalog : Catalog) (selection : Selection) : Prop where
  known : (catalog.package? selection.packageId).isSome = true
  linked : ∀ key ∈ selection.params.keys, key ∈ catalog.localKeys selection.packageId
  params : selection.params.Each fun key value =>
    catalog.coerceLocal selection.packageId key value = .ok value

/-- The form in which things are stored. Hours and wages are kept by role; what is saved of them has
the names of the roles. -/
structure Store.Canonical (reference : Reference) (store : Store) : Prop where
  globals : store.globals.Each fun key value => reference.catalog.coerceGlobal key value = .ok value
  instances : store.instances.Each fun _ selection => selection.Canonical reference.catalog
  prices : store.overlay.prices.Each fun _ x => Override.IsAmount x
  markups : store.overlay.markups.Each fun _ x => Override.IsMarkup x
  hours : store.saved.hours.Each fun _ figures => figures.keys ≠ [] ∧ RoleAmounts figures
  quantities : store.overlay.quantities.Each fun _ n => 1 ≤ n
  swaps : store.overlay.swaps.Each fun _ id => (reference.catalog.product? id).isSome = true
  wages : RoleAmounts store.saved.wages

theorem Catalog.mem_localKeys_of_coerced {catalog : Catalog} {packageId given value : Value}
    {key : String} (coerced : catalog.coerceLocal packageId key given = .ok value) :
    key ∈ catalog.localKeys packageId := by
  unfold coerceLocal at coerced
  split at coerced
  · split at coerced
    · rename_i linked
      exact List.contains_iff_mem.1 linked
    · cases coerced
  · cases coerced

theorem Selection.Valid.canonical {catalog : Catalog} {selection : Selection}
    (valid : selection.Valid catalog) : selection.Canonical catalog where
  known := valid.known
  linked key present := by
    obtain ⟨value, found⟩ := OrderedMap.mem_keys_iff.1 present
    obtain ⟨_, coerced⟩ := valid.params.accepted key value found
    exact Catalog.mem_localKeys_of_coerced coerced
  params key value found := Catalog.coerceLocal_fixed (valid.params.accepted key value found)

/-- A valid store is canonical: what was accepted once is accepted again as it is. -/
theorem Store.Valid.canonical {reference : Reference} {store : Store}
    (valid : store.Valid reference) : store.Canonical reference where
  globals key value found := Catalog.coerceGlobal_fixed (valid.globals.accepted key value found)
  instances id selection found := (valid.instances id selection found).canonical
  prices id x found := Override.accepted_amount_iff.1 (valid.overlay.prices id x found)
  markups id x found := Override.accepted_markup_iff.1 (valid.overlay.markups id x found)
  hours id saved found := by
    have restored : (store.overlay.hours.mapValues namedRoles).get? id = some saved := found
    rw [OrderedMap.get?_mapValues] at restored
    obtain ⟨figures, listed, rfl⟩ := Option.map_eq_some_iff.1 restored
    obtain ⟨some, accepted⟩ := valid.overlay.hours id figures listed
    exact ⟨keys_namedRoles_ne_nil some, roleAmounts_of_accepted accepted⟩
  quantities id n found := Override.one_le_of_accepted (valid.overlay.quantities id n found)
  swaps := valid.overlay.swaps
  wages := roleAmounts_of_accepted valid.wages

namespace Session

variable {start s : Session}

/-- The store of a reached session is canonical, whatever the outcomes of the writes were. -/
theorem run_canonical {source : Source} {asked : Value}
    (loaded : Session.load source asked = .ok start) (run : Run anyOutcome start s) :
    s.store.Canonical s.reference :=
  (run_valid loaded run).2.canonical

/-- Accepted and rejected writes, and a saved state that is restored up to a number beyond the range of
binary64. -/
def mixedWrites : List (String × Write) := someWrites ++ [
  ("", .setMarkup (.str "1-00000001-STD") (.str "12,345")),
  ("", .setQuantity (.str "1-00000001-STD") (.float 0.5)),
  ("", .setHours (.str "1-00000001-STD") (.str "monteur") (.float (-0.0))),
  ("", .setHours (.str "1-00000001-STD") (.str "lehrling") (.int 1))] ++
  (SavedState.ofValue? enormousRoom).toList.map fun saved => ("", .restore saved)

theorem mixedWrites_stored : (Session.load twoLocations .null).toOption.map (fun start =>
    ((start.after mixedWrites).store.saved.prices.get? "1-00000001-PRE",
      (start.after mixedWrites).store.saved.markups.get? "1-00000001-STD",
      (start.after mixedWrites).store.saved.hours.keys, start.settles mixedWrites)) =
    some (some 9.99, some 12.35, ["1-00000001-PRE", "1-00000001-STD"], false) := by decide +kernel

/-- Zero hours are stored as well. A write fails, and what is left is canonical. -/
theorem mixedWrites_canonical : ∃ start s, Session.load twoLocations .null = .ok start ∧
    Run anyOutcome start s ∧ s.store.saved.prices.get? "1-00000001-PRE" = some 9.99 ∧
    s.store.saved.markups.get? "1-00000001-STD" = some 12.35 ∧
    s.store.saved.hours.keys = ["1-00000001-PRE", "1-00000001-STD"] ∧
    start.settles mixedWrites = false ∧ s.store.Canonical s.reference := by
  obtain ⟨start, loaded, facts⟩ := toOption_map_eq_some_iff.1 mixedWrites_stored
  obtain ⟨price, facts⟩ := Prod.mk.inj facts
  obtain ⟨markup, facts⟩ := Prod.mk.inj facts
  obtain ⟨hours, failed⟩ := Prod.mk.inj facts
  have run : Run anyOutcome start (start.after mixedWrites) := run_after .refl _
  exact ⟨start, _, loaded, run, price, markup, hours, failed, run_canonical loaded run⟩

end Session

end WiringQuote
