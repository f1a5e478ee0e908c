import Mathlib.Data.List.Nodup
import WiringQuote.OrderedMap

/-!
# Ordered maps by key

What each operation of an ordered map does to the value of a key, and when two maps are one:

* `mem_entries_iff`: an entry is present exactly if its value is found under its key;
* `eq_of_get?`: maps with the same keys in one order and the same values are equal;
* `overlay_eq_right`: writing a map over one with the first of its keys gives that map back.

`Same` is equality up to the order of keys.
-/

namespace WiringQuote.OrderedMap

variable {κ α β : Type} [DecidableEq κ]

/-- The maps have the same value for every key, whatever the order of the keys. -/
def Same (m n : OrderedMap κ α) : Prop := ∀ key, m.get? key = n.get? key

theorem Same.refl (m : OrderedMap κ α) : m.Same m := fun _ => rfl

/-! ## Entries and keys -/

theorem lookup_eq_none_iff {entries : List (κ × α)} {key : κ} :
    lookup key entries = none ↔ key ∉ entries.map Prod.fst := by
  induction entries with
  | nil => simp [lookup]
  | cons head rest ih =>
    by_cases same : head.1 = key
    · simp [lookup, same]
    · simp [lookup, same, ih, Ne.symm same]

theorem lookup_eq_some_iff {entries : List (κ × α)} (distinct : (entries.map Prod.fst).Nodup)
    {key : κ} {value : α} : lookup key entries = some value ↔ (key, value) ∈ entries := by
  induction entries with
  | nil => simp [lookup]
  | cons head rest ih =>
    obtain ⟨k, a⟩ := head
    rw [List.map_cons, List.nodup_cons] at distinct
    by_cases same : k = key
    · subst same
      have absent : (k, value) ∉ rest := fun present =>
        distinct.1 (List.mem_map.2 ⟨_, present, rfl⟩)
      simp [lookup, absent, eq_comm]
    · simp [lookup, same, ih distinct.2, Ne.symm same]

theorem mem_entries_iff {m : OrderedMap κ α} {key : κ} {value : α} :
    (key, value) ∈ m.entries ↔ m.get? key = some value :=
  (lookup_eq_some_iff m.nodup).symm

theorem get?_eq_none_iff {m : OrderedMap κ α} {key : κ} : m.get? key = none ↔ key ∉ m.keys :=
  lookup_eq_none_iff

theorem contains_iff {m : OrderedMap κ α} {key : κ} : m.contains key = true ↔ key ∈ m.keys := by
  unfold contains
  rw [Option.isSome_iff_ne_none, ne_eq, get?_eq_none_iff, not_not]

theorem mem_keys_iff {m : OrderedMap κ α} {key : κ} :
    key ∈ m.keys ↔ ∃ value, m.get? key = some value := by
  rw [← contains_iff, contains, Option.isSome_iff_exists]

theorem mem_values_iff {m : OrderedMap κ α} {value : α} :
    value ∈ m.values ↔ ∃ key, m.get? key = some value := by
  unfold values
  simp only [List.mem_map, Prod.exists, exists_eq_right, mem_entries_iff]

/-- Values of one list of distinct keys are told apart by their keys. -/
theorem lookup_map_key {keys : List κ} {f : κ → Option α} {entries : List (κ × α)}
    (listed : entries.map Prod.fst = keys) (found : ∀ key ∈ keys, lookup key entries = f key)
    (distinct : keys.Nodup) : entries = keys.filterMap fun key => (f key).map fun a => (key, a) := by
  subst listed
  induction entries with
  | nil => rfl
  | cons head rest ih =>
    obtain ⟨k, a⟩ := head
    rw [List.map_cons, List.nodup_cons] at distinct
    have first : f k = some a := by simpa [lookup] using (found k (by simp)).symm
    have others : ∀ key ∈ rest.map Prod.fst, lookup key rest = f key := by
      intro key present
      have other : k ≠ key := fun same => distinct.1 (same ▸ present)
      simpa [lookup, other] using found key (List.mem_cons_of_mem _ present)
    rw [List.map_cons, List.filterMap_cons]
    simp only [first, Option.map_some]
    rw [← ih others distinct.2]

/-- Maps with the same keys in one order and the same values are equal. -/
theorem eq_of_get? {m n : OrderedMap κ α} (keys : m.keys = n.keys) (same : m.Same n) : m = n := by
  have left := lookup_map_key keys (fun key _ => same key) n.nodup
  have right := lookup_map_key rfl (fun key _ => rfl) n.nodup
  exact ext (left.trans right.symm)

/-! ## Operations by key -/

theorem lookup_filter {keep : κ → Bool} (entries : List (κ × α)) (key : κ) :
    lookup key (entries.filter fun entry => keep entry.1) =
      if keep key then lookup key entries else none := by
  induction entries with
  | nil => simp [lookup]
  | cons head rest ih =>
    obtain ⟨k, a⟩ := head
    by_cases same : k = key
    · subst same
      by_cases kept : keep k = true
      · simp [lookup, kept]
      · simpa [lookup, kept] using ih
    · by_cases kept : keep k = true <;> simp [lookup, same, kept, ih]

@[simp] theorem get?_filterKeys (m : OrderedMap κ α) (keep : κ → Bool) (key : κ) :
    (m.filterKeys keep).get? key = if keep key then m.get? key else none :=
  lookup_filter m.entries key

omit [DecidableEq κ] in
theorem keys_filterKeys (m : OrderedMap κ α) (keep : κ → Bool) :
    (m.filterKeys keep).keys = m.keys.filter keep := by
  unfold keys filterKeys filter
  rw [List.filter_map]
  rfl

omit [DecidableEq κ] in
theorem mem_keys_filterKeys_iff {m : OrderedMap κ α} {keep : κ → Bool} {key : κ} :
    key ∈ (m.filterKeys keep).keys ↔ key ∈ m.keys ∧ keep key = true := by
  rw [keys_filterKeys, List.mem_filter]

omit [DecidableEq κ] in
theorem filterKeys_filterKeys (m : OrderedMap κ α) (first second : κ → Bool) :
    (m.filterKeys first).filterKeys second = m.filterKeys fun key => first key && second key :=
  ext (List.filter_filter.trans (List.filter_congr fun _ _ => Bool.and_comm _ _))

theorem filter_put {keep : κ → Bool} {key : κ} (left : keep key = false) (value : α)
    (entries : List (κ × α)) :
    (put key value entries).filter (fun entry => keep entry.1) =
      entries.filter fun entry => keep entry.1 := by
  induction entries with
  | nil => simp [put, left]
  | cons head rest ih =>
    obtain ⟨k, a⟩ := head
    by_cases same : k = key
    · subst same
      simp [put, left]
    · simp [put, same, List.filter_cons, ih]

/-- What is written to a key that is left out does not show. -/
theorem mem_keys_insert_iff {m : OrderedMap κ α} {key other : κ} {value : α} :
    other ∈ (m.insert key value).keys ↔ other ∈ m.keys ∨ other = key := by
  rw [keys_insert]
  split
  · rename_i present
    exact ⟨.inl, fun either => either.elim id fun same => same ▸ present⟩
  · rw [List.mem_append, List.mem_singleton]

theorem filterKeys_insert {m : OrderedMap κ α} {keep : κ → Bool} {key : κ}
    (left : keep key = false) (value : α) :
    (m.insert key value).filterKeys keep = m.filterKeys keep :=
  ext (filter_put left value m.entries)

theorem filterKeys_erase {m : OrderedMap κ α} {keep : κ → Bool} {key : κ}
    (left : keep key = false) : (m.erase key).filterKeys keep = m.filterKeys keep := by
  refine ext ?_
  show (m.entries.filter _).filter _ = m.entries.filter _
  rw [List.filter_filter]
  refine List.filter_congr fun entry _ => ?_
  by_cases same : entry.1 = key
  · simp [same, left]
  · simp [same]

omit [DecidableEq κ] in
theorem filterKeys_eq_self {m : OrderedMap κ α} {keep : κ → Bool}
    (kept : ∀ key ∈ m.keys, keep key = true) : m.filterKeys keep = m :=
  ext (List.filter_eq_self.2 fun entry listed => kept entry.1 (List.mem_map_of_mem listed))

/-- An erased key may have been written to before. -/
theorem erase_insert (m : OrderedMap κ α) (key : κ) (value : α) :
    (m.insert key value).erase key = m.erase key :=
  filterKeys_insert (by simp) value

/-- The later of two values for a key stays, in the place that the first one found. -/
theorem insert_insert (m : OrderedMap κ α) (key : κ) (first second : α) :
    (m.insert key first).insert key second = m.insert key second := by
  have general : ∀ entries : List (κ × α),
      put key second (put key first entries) = put key second entries := by
    intro entries
    induction entries with
    | nil => simp [put]
    | cons entry rest ih =>
      obtain ⟨own, value⟩ := entry
      by_cases same : own = key
      · simp [put, same]
      · simp [put, same, ih]
  exact ext (general m.entries)

/-- Entries under other keys can be told after one is erased. -/
theorem get?_of_erase {m n : OrderedMap κ α} {key other : κ} (same : m.erase key = n.erase key)
    (apart : other ≠ key) : m.get? other = n.get? other := by
  have found := congrArg (·.get? other) same
  simpa [erase, apart] using found

theorem erase_of_not_contains {m : OrderedMap κ α} {key : κ} (absent : m.contains key = false) :
    m.erase key = m := by
  refine filterKeys_eq_self fun other listed => ?_
  have different : other ≠ key := by
    rintro rfl
    rw [contains_iff.2 listed] at absent
    cases absent
  simp [different]

/-- A new key goes to the end. -/
theorem entries_insert {m : OrderedMap κ α} {key : κ} (absent : key ∉ m.keys) (value : α) :
    (m.insert key value).entries = m.entries ++ [(key, value)] := by
  have general : ∀ entries : List (κ × α), key ∉ entries.map Prod.fst →
      put key value entries = entries ++ [(key, value)] := by
    intro entries
    induction entries with
    | nil => exact fun _ => rfl
    | cons entry rest ih =>
      intro absent
      rw [List.map_cons, List.mem_cons, not_or] at absent
      rw [put, if_neg fun same => absent.1 same.symm, ih absent.2, List.cons_append]
  exact general m.entries absent

theorem contains_insert (m : OrderedMap κ α) (key : κ) (value : α) :
    (m.insert key value).contains key = true := by
  unfold contains
  rw [get?_insert, if_pos rfl]
  rfl

theorem lookup_map (f : α → β) (entries : List (κ × α))
    (key : κ) :
    lookup key (entries.map fun entry => (entry.1, f entry.2)) = (lookup key entries).map f := by
  induction entries with
  | nil => rfl
  | cons head rest ih =>
    rw [List.map_cons, lookup, lookup, ih]
    split <;> rfl

@[simp] theorem get?_mapValues (m : OrderedMap κ α) (f : α → β) (key : κ) :
    (m.mapValues f).get? key = (m.get? key).map f :=
  lookup_map f m.entries key

/-! ## Entries written one after the other -/

/-- Writes the entries of a list, in order. -/
def writeAll (m : OrderedMap κ α) (entries : List (κ × α)) : OrderedMap κ α :=
  entries.foldl (fun acc entry => acc.insert entry.1 entry.2) m

theorem get?_writeAll {entries : List (κ × α)} (distinct : (entries.map Prod.fst).Nodup)
    (m : OrderedMap κ α) (key : κ) :
    (m.writeAll entries).get? key = (lookup key entries).or (m.get? key) := by
  unfold writeAll
  induction entries generalizing m with
  | nil => rfl
  | cons head rest ih =>
    obtain ⟨k, a⟩ := head
    rw [List.map_cons, List.nodup_cons] at distinct
    rw [List.foldl_cons, ih distinct.2, get?_insert]
    by_cases same : k = key
    · subst same
      simp [lookup, lookup_eq_none_iff.2 distinct.1]
    · simp [lookup, same]

/-- New keys go to the end, in the order in which they come. -/
theorem keys_writeAll {entries : List (κ × α)} (distinct : (entries.map Prod.fst).Nodup)
    (m : OrderedMap κ α) :
    (m.writeAll entries).keys = m.keys ++ (entries.map Prod.fst).filter (· ∉ m.keys) := by
  unfold writeAll
  induction entries generalizing m with
  | nil => simp
  | cons head rest ih =>
    obtain ⟨k, a⟩ := head
    rw [List.map_cons, List.nodup_cons] at distinct
    rw [List.foldl_cons, ih distinct.2, keys_insert, List.map_cons]
    by_cases present : k ∈ m.keys
    · simp [present]
    · have same : (rest.map Prod.fst).filter (· ∉ m.keys ++ [k]) =
          (rest.map Prod.fst).filter (· ∉ m.keys) := by
        refine List.filter_congr fun key inRest => ?_
        have other : key ≠ k := fun same => distinct.1 (same ▸ inRest)
        simp [other]
      simp only [present, if_false]
      rw [same, List.filter_cons_of_pos (by simpa using present), List.append_assoc,
        List.singleton_append]

/-- The value of a key after `n` is written over `m`. -/
@[simp] theorem get?_overlay (m n : OrderedMap κ α) (key : κ) :
    (m.overlay n).get? key = (n.get? key).or (m.get? key) :=
  get?_writeAll n.nodup m key

/-- Writing a map over one with the first of its keys gives that map back. -/
theorem overlay_eq_right {m n : OrderedMap κ α} (first : m.keys <+: n.keys) : m.overlay n = n := by
  refine eq_of_get? ?_ fun key => ?_
  · -- The first keys keep their places, and only the others are new.
    obtain ⟨others, split⟩ := first
    have distinct : (m.keys ++ others).Nodup := split ▸ n.nodup
    have old : m.keys.filter (· ∉ m.keys) = [] := by
      rw [List.filter_eq_nil_iff]
      intro key present
      simpa using present
    have new : others.filter (· ∉ m.keys) = others := by
      rw [List.filter_eq_self]
      intro key present
      simpa using fun inFirst => (List.nodup_append.1 distinct).2.2 key inFirst key present rfl
    calc (m.overlay n).keys = m.keys ++ n.keys.filter (· ∉ m.keys) := keys_writeAll n.nodup m
      _ = m.keys ++ others := by rw [← split, List.filter_append, old, new, List.nil_append]
      _ = n.keys := split
  · rw [get?_overlay]
    cases found : n.get? key with
    | some value => rfl
    | none =>
      have absent : key ∉ m.keys := fun present => get?_eq_none_iff.1 found (first.subset present)
      rw [Option.none_or, get?_eq_none_iff.2 absent]

theorem keys_prefix_insert {first : List κ} {m : OrderedMap κ α} (begins : first <+: m.keys)
    (key : κ) (a : α) : first <+: (m.insert key a).keys := by
  rw [keys_insert]
  split
  · exact begins
  · exact begins.trans (List.prefix_append _ _)

/-! ## Values with a property -/

/-- Every entry has the property. -/
def Each (p : κ → α → Prop) (m : OrderedMap κ α) : Prop := ∀ key a, m.get? key = some a → p key a

theorem each_empty (p : κ → α → Prop) : Each p (empty : OrderedMap κ α) := by
  intro key a found
  rw [get?_empty] at found
  cases found

theorem Each.insert {p : κ → α → Prop} {m : OrderedMap κ α} (each : Each p m) {key : κ} {a : α}
    (own : p key a) : Each p (m.insert key a) := by
  intro other b found
  rw [get?_insert] at found
  split at found
  · rename_i same
    cases found
    exact same ▸ own
  · exact each other b found

/-- A map with an entry for each key of some elements, which says something of the elements with the
key: one more element changes the entry under its own key only. -/
theorem Each.insert_group (holds : κ → List β → α → Prop) {keyOf : β → κ} {done : List β}
    {m : OrderedMap κ α} (each : Each (fun k a => holds k (done.filter fun b => keyOf b = k) a) m)
    {b : β} {a : α} (own : holds (keyOf b) ((done.filter fun c => keyOf c = keyOf b) ++ [b]) a) :
    Each (fun k a => holds k ((done ++ [b]).filter fun c => keyOf c = k) a)
      (m.insert (keyOf b) a) := by
  intro k other found
  rw [get?_insert] at found
  rw [List.filter_append]
  split at found
  · rename_i same
    cases found
    subst same
    simpa using own
  · rename_i apart
    simpa [apart] using each k other found

theorem Each.filterKeys {p : κ → α → Prop} {m : OrderedMap κ α} (each : Each p m)
    (keep : κ → Bool) : Each p (m.filterKeys keep) := by
  intro key a found
  rw [get?_filterKeys] at found
  split at found
  · exact each key a found
  · cases found

theorem Each.erase {p : κ → α → Prop} {m : OrderedMap κ α} (each : Each p m) (key : κ) :
    Each p (m.erase key) := each.filterKeys _

theorem Each.of_mem {q : α → Prop} {m : OrderedMap κ α} (each : Each (fun _ a => q a) m) {a : α}
    (present : a ∈ m.values) : q a := by
  obtain ⟨key, found⟩ := mem_values_iff.1 present
  exact each key a found

/-- What each entry of a list has, each entry of the map that they make has. -/
theorem each_ofList {p : κ → α → Prop} {entries : List (κ × α)}
    (each : ∀ entry ∈ entries, p entry.1 entry.2) : Each p (ofList entries) := by
  unfold ofList
  exact List.foldlRecOn entries _ (each_empty p) fun m start entry listed =>
    start.insert (each entry listed)

/-! ## Values that hold their keys -/

/-- Every value is kept under the key that it yields. -/
def KeyedBy (f : α → κ) (m : OrderedMap κ α) : Prop := Each (fun key a => f a = key) m

theorem keyedBy_empty (f : α → κ) : KeyedBy f (empty : OrderedMap κ α) := each_empty _

theorem KeyedBy.insert {f : α → κ} {m : OrderedMap κ α} (keyed : KeyedBy f m) {key : κ} {a : α}
    (own : f a = key) : KeyedBy f (m.insert key a) := Each.insert keyed own

theorem KeyedBy.get?_of_mem {f : α → κ} {m : OrderedMap κ α} (keyed : KeyedBy f m) {a : α}
    (present : a ∈ m.values) : m.get? (f a) = some a := by
  obtain ⟨key, found⟩ := mem_values_iff.1 present
  rwa [keyed key a found]

/-- Values that are told apart by a key of their own are as distinct as their entries. -/
theorem nodup_map_values {m : OrderedMap κ α} {g : α → β}
    (apart : ∀ k a l b, m.get? k = some a → m.get? l = some b → g a = g b → k = l) :
    (m.values.map g).Nodup := by
  unfold values
  rw [List.map_map]
  refine List.Nodup.map_on (fun x inX y inY same => ?_) m.nodup.of_map
  have foundX := mem_entries_iff.1 inX
  have foundY := mem_entries_iff.1 inY
  have sameKey : x.1 = y.1 := apart _ _ _ _ foundX foundY same
  rw [sameKey, foundY] at foundX
  exact Prod.ext sameKey (Option.some.inj foundX).symm

theorem KeyedBy.nodup {f : α → κ} {m : OrderedMap κ α} (keyed : KeyedBy f m) :
    (m.values.map f).Nodup :=
  nodup_map_values fun _ _ _ _ foundA foundB same =>
    (keyed _ _ foundA).symm.trans (same.trans (keyed _ _ foundB))

/-- Under a key that is taken there is one value. -/
theorem KeyedBy.existsUnique {f : α → κ} {m : OrderedMap κ α} (keyed : KeyedBy f m) {key : κ}
    (taken : key ∈ m.keys) : ∃! a, a ∈ m.values ∧ f a = key := by
  obtain ⟨a, found⟩ := mem_keys_iff.1 taken
  refine ⟨a, ⟨mem_values_iff.2 ⟨key, found⟩, keyed key a found⟩, fun other same => ?_⟩
  have there := keyed.get?_of_mem same.1
  rw [same.2, found] at there
  exact (Option.some.inj there).symm

/-- The entries of a map make up that map. -/
theorem ofList_entries (n : OrderedMap κ α) : ofList n.entries = n :=
  overlay_eq_right (m := empty) (List.nil_prefix)

end WiringQuote.OrderedMap
