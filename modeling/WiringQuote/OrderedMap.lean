/-!
# Maps in order of insertion

Answers and stored states list the entries of a map in the order in which their keys first came.
`OrderedMap` keeps that order and holds each key once: writing to a present key changes its value
in place, a new key goes to the end.
-/

namespace WiringQuote

universe u v w

/-- Entries in order of first insertion, each key once. -/
structure OrderedMap (κ : Type u) (α : Type v) where
  entries : List (κ × α)
  nodup : (entries.map Prod.fst).Nodup

namespace OrderedMap

variable {κ : Type u} {α : Type v} {β : Type w}

theorem ext {m n : OrderedMap κ α} (same : m.entries = n.entries) : m = n := by
  cases m; cases n; cases same; rfl

def empty : OrderedMap κ α := ⟨[], List.nodup_nil⟩

instance : EmptyCollection (OrderedMap κ α) := ⟨empty⟩

instance : Inhabited (OrderedMap κ α) := ⟨empty⟩

def keys (m : OrderedMap κ α) : List κ := m.entries.map Prod.fst

def values (m : OrderedMap κ α) : List α := m.entries.map Prod.snd

def size (m : OrderedMap κ α) : Nat := m.entries.length

def isEmpty (m : OrderedMap κ α) : Bool := m.entries.isEmpty

/-! ## Entry lists -/

/-- Writes a value to a key, in place or at the end. -/
def put [DecidableEq κ] (key : κ) (value : α) : List (κ × α) → List (κ × α)
  | [] => [(key, value)]
  | (k, a) :: rest => if k = key then (k, value) :: rest else (k, a) :: put key value rest

/-- The value of the first entry with the key. -/
def lookup [DecidableEq κ] (key : κ) : List (κ × α) → Option α
  | [] => none
  | (k, a) :: rest => if k = key then some a else lookup key rest

theorem keys_put [DecidableEq κ] (key : κ) (value : α) (entries : List (κ × α)) :
    (put key value entries).map Prod.fst =
      if key ∈ entries.map Prod.fst then entries.map Prod.fst
      else entries.map Prod.fst ++ [key] := by
  induction entries with
  | nil => simp [put]
  | cons head rest ih =>
    obtain ⟨k, a⟩ := head
    by_cases same : k = key
    · simp [put, same]
    · have other : ¬ key = k := fun h => same h.symm
      simp only [put, same, if_false, List.map_cons, ih, List.mem_cons, other, false_or]
      split <;> simp

theorem lookup_put [DecidableEq κ] (key other : κ) (value : α) (entries : List (κ × α)) :
    lookup other (put key value entries) =
      if key = other then some value else lookup other entries := by
  induction entries with
  | nil => simp [put, lookup]
  | cons head rest ih =>
    obtain ⟨k, a⟩ := head
    by_cases same : k = key
    · subst same
      by_cases this : k = other <;> simp [put, lookup, this]
    · by_cases this : k = other
      · subst this
        have : ¬ key = k := fun h => same h.symm
        simp [put, lookup, same, this]
      · simp [put, lookup, same, this, ih]

theorem nodup_put [DecidableEq κ] {key : κ} {value : α} {entries : List (κ × α)}
    (distinct : (entries.map Prod.fst).Nodup) : ((put key value entries).map Prod.fst).Nodup := by
  rw [keys_put]
  split
  · exact distinct
  · rename_i absent
    refine List.nodup_append.2 ⟨distinct, by simp, ?_⟩
    intro a inKeys b isKey
    simp only [List.mem_singleton] at isKey
    subst isKey
    intro same
    exact absent (same ▸ inKeys)

/-! ## Operations -/

def get? [DecidableEq κ] (m : OrderedMap κ α) (key : κ) : Option α := lookup key m.entries

def contains [DecidableEq κ] (m : OrderedMap κ α) (key : κ) : Bool := (m.get? key).isSome

def insert [DecidableEq κ] (m : OrderedMap κ α) (key : κ) (value : α) : OrderedMap κ α :=
  ⟨put key value m.entries, nodup_put m.nodup⟩

/-- The entries that pass. -/
def filter (m : OrderedMap κ α) (keep : κ → α → Bool) : OrderedMap κ α :=
  ⟨m.entries.filter fun entry => keep entry.1 entry.2,
    m.nodup.sublist (List.filter_sublist.map Prod.fst)⟩

/-- The entries whose key passes. -/
def filterKeys (m : OrderedMap κ α) (keep : κ → Bool) : OrderedMap κ α :=
  m.filter fun key _ => keep key

def erase [DecidableEq κ] (m : OrderedMap κ α) (key : κ) : OrderedMap κ α :=
  m.filterKeys fun k => !decide (k = key)

def mapValues (m : OrderedMap κ α) (f : α → β) : OrderedMap κ β :=
  ⟨m.entries.map fun entry => (entry.1, f entry.2), by
    have same : (m.entries.map fun entry => (entry.1, f entry.2)).map Prod.fst =
        m.entries.map Prod.fst := by simp [Function.comp_def]
    rw [same]
    exact m.nodup⟩

theorem keys_filterMap_sublist (f : κ → α → Option β) (entries : List (κ × α)) :
    ((entries.filterMap fun entry => (f entry.1 entry.2).map fun b => (entry.1, b)).map
      Prod.fst).Sublist (entries.map Prod.fst) := by
  induction entries with
  | nil => exact .slnil
  | cons entry rest ih =>
    rw [List.filterMap_cons]
    cases f entry.1 entry.2 with
    | none => exact ih.cons _
    | some b => exact ih.cons_cons _

/-- The values that there are for the keys and their values. -/
def filterMap (m : OrderedMap κ α) (f : κ → α → Option β) : OrderedMap κ β :=
  ⟨m.entries.filterMap fun entry => (f entry.1 entry.2).map fun b => (entry.1, b),
    m.nodup.sublist (keys_filterMap_sublist f m.entries)⟩

/-- Entries written one after the other. -/
def ofList [DecidableEq κ] (entries : List (κ × α)) : OrderedMap κ α :=
  entries.foldl (fun m entry => m.insert entry.1 entry.2) empty

/-- The entries of `n` written over those of `m`. -/
def overlay [DecidableEq κ] (m n : OrderedMap κ α) : OrderedMap κ α :=
  n.entries.foldl (fun acc entry => acc.insert entry.1 entry.2) m

@[simp] theorem get?_empty [DecidableEq κ] (key : κ) : (empty : OrderedMap κ α).get? key = none :=
  rfl

theorem get?_insert [DecidableEq κ] (m : OrderedMap κ α) (key other : κ) (value : α) :
    (m.insert key value).get? other = if key = other then some value else m.get? other :=
  lookup_put key other value m.entries

/-- A present key keeps its place, a new one goes to the end. -/
theorem keys_insert [DecidableEq κ] (m : OrderedMap κ α) (key : κ) (value : α) :
    (m.insert key value).keys = if key ∈ m.keys then m.keys else m.keys ++ [key] :=
  keys_put key value m.entries

end OrderedMap

end WiringQuote
