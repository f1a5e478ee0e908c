import Mathlib.Algebra.Ring.Nat
import Mathlib.Data.List.Nodup
import Mathlib.Data.List.Perm.Basic
import WiringQuote.Proofs.OrderedMap

/-!
# Lists by key

The keys of a list in order of first appearance, and the elements that each of them has.

* `eraseDups_filter`: leaving keys out and dropping repeated ones can be done in either order.
* `flatMap_filter_perm`: the elements of each key are, together, all elements.
* `flatMap_values_perm`: so are those of each entry of a table with an entry for each key.
-/

namespace WiringQuote.Grouping

variable {α κ : Type}

/-! ## Keys, each once -/

section Keys

variable [BEq κ] [LawfulBEq κ]

theorem nodup_eraseDups (l : List κ) : l.eraseDups.Nodup := by
  induction shorter : l.length using Nat.strongRecOn generalizing l with
  | ind n ih =>
    cases l with
    | nil => exact List.nodup_nil
    | cons a rest =>
      have less : (rest.filter fun b => !b == a).length < n := by
        rw [← shorter, List.length_cons]
        exact Nat.lt_succ_of_le (List.length_filter_le _ _)
      rw [List.eraseDups_cons, List.nodup_cons, List.mem_eraseDups]
      exact ⟨by simp, ih _ less _ rfl⟩

/-- Leaving keys out and dropping repeated ones can be done in either order. -/
theorem eraseDups_filter (l : List κ) (keep : κ → Bool) :
    (l.filter keep).eraseDups = l.eraseDups.filter keep := by
  induction shorter : l.length using Nat.strongRecOn generalizing l with
  | ind n ih =>
    cases l with
    | nil => rfl
    | cons a rest =>
      have less : (rest.filter fun b => !b == a).length < n := by
        rw [← shorter, List.length_cons]
        exact Nat.lt_succ_of_le (List.length_filter_le _ _)
      have others := ih _ less _ rfl
      rw [List.eraseDups_cons, List.filter_cons, List.filter_cons]
      by_cases kept : keep a = true
      · rw [if_pos kept, if_pos kept, List.eraseDups_cons, List.filter_comm, others]
      · rw [if_neg kept, if_neg kept, ← others, List.filter_filter]
        -- The key that is left out is not among the others that are kept.
        refine congrArg _ (List.filter_congr fun b _ => ?_)
        by_cases same : b = a
        · simp [same, kept]
        · simp [same]

theorem eraseDups_concat (l : List κ) (a : κ) :
    (l ++ [a]).eraseDups = if a ∈ l.eraseDups then l.eraseDups else l.eraseDups ++ [a] := by
  rw [List.eraseDups_append, List.removeAll, List.filter_cons]
  simp only [List.mem_eraseDups, List.elem_eq_mem, List.filter_nil]
  by_cases known : a ∈ l
  · simp [known]
  · simp [known, List.eraseDups_cons]

end Keys

/-! ## Elements with a partner -/

/-- The elements that are paired up are those that have a partner, in order. -/
theorem map_filterMap_pair {β γ : Type} {partner? : α → Option β} {pair : α → β → γ} {first : γ → α}
    (own : ∀ a b, first (pair a b) = a) (items : List α) :
    (items.filterMap fun a => (partner? a).map (pair a)).map first =
      items.filter fun a => (partner? a).isSome := by
  induction items with
  | nil => rfl
  | cons head rest ih =>
    cases found : partner? head with
    | none => simp [found, ih]
    | some b => simp [found, ih, own]

/-! ## Elements by key -/

variable [DecidableEq κ]

theorem filter_key_eq_nil {key : α → κ} {items : List α} {k : κ} (unused : k ∉ items.map key) :
    (items.filter fun item => key item = k) = [] := by
  rw [List.filter_eq_nil_iff]
  intro item listed own
  exact unused (List.mem_map.2 ⟨item, listed, by simpa using own⟩)

/-- The elements of each key are, together, all elements: each of them once. -/
theorem flatMap_filter_perm {keys : List κ} (distinct : keys.Nodup) {key : α → κ} {items : List α}
    (covered : ∀ item ∈ items, key item ∈ keys) :
    (keys.flatMap fun k => items.filter fun item => key item = k).Perm items := by
  induction keys generalizing items with
  | nil =>
    have nothing : items = [] :=
      List.eq_nil_iff_forall_not_mem.2 fun item listed => List.not_mem_nil (covered item listed)
    rw [nothing, List.flatMap_nil]
  | cons k rest ih =>
    obtain ⟨fresh, others⟩ := List.nodup_cons.1 distinct
    -- The elements of the other keys are among those that the first key leaves over.
    have later : (rest.flatMap fun other => items.filter fun item => key item = other) =
        rest.flatMap fun other =>
          (items.filter fun item => !decide (key item = k)).filter fun item => key item = other := by
      refine List.flatMap_congr fun other listed => ?_
      rw [List.filter_filter]
      refine List.filter_congr fun item _ => ?_
      by_cases own : key item = other
      · have apart : other ≠ k := fun same => fresh (same ▸ listed)
        simp [own, apart]
      · simp [own]
    have coveredLater : ∀ item ∈ items.filter (fun item => !decide (key item = k)), key item ∈ rest := by
      intro item listed
      obtain ⟨present, apart⟩ := List.mem_filter.1 listed
      exact (List.mem_cons.1 (covered item present)).resolve_left (by simpa using apart)
    rw [List.flatMap_cons, later]
    exact ((ih others coveredLater).append_left _).trans (List.filter_append_perm _ items)

/-- A table with an entry for each key of some elements: those of each entry are, together, all of
them. -/
theorem flatMap_values_perm {β : Type} {table : OrderedMap κ β} {keyOf : β → κ}
    (keyed : table.KeyedBy keyOf) {key : α → κ} {items : List α}
    (covers : ∀ k, k ∈ table.keys ↔ k ∈ items.map key) :
    (table.values.flatMap fun entry => items.filter fun item => key item = keyOf entry).Perm
      items := by
  have covered : ∀ item ∈ items, key item ∈ table.values.map keyOf := by
    intro item listed
    obtain ⟨entry, found⟩ := OrderedMap.mem_keys_iff.1 ((covers _).2 (List.mem_map_of_mem listed))
    exact List.mem_map.2 ⟨entry, OrderedMap.mem_values_iff.2 ⟨_, found⟩, keyed _ _ found⟩
  have entries := flatMap_filter_perm keyed.nodup covered
  rwa [List.flatMap_map] at entries

/-- The elements of each key are, together, as many as there are elements. -/
theorem sum_length_filter {keys : List κ} (distinct : keys.Nodup) {key : α → κ} {items : List α}
    (covered : ∀ item ∈ items, key item ∈ keys) :
    (keys.map fun k => (items.filter fun item => key item = k).length).sum = items.length := by
  rw [← (flatMap_filter_perm distinct covered).length_eq, List.length_flatMap]

end WiringQuote.Grouping
