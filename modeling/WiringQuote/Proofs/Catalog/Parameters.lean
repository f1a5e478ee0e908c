import WiringQuote.Catalog.Basic
import WiringQuote.Proofs.Fallible
import WiringQuote.Proofs.OrderedMap

/-!
# Stored parameters

What is stored for parameters are values that the parameters accepted, and the defaults come first.

* `Fitting`: the stored values of some parameters, over their defaults.
* `fitting_defaultGlobals`, `fitting_defaultLocals`: the defaults themselves fit.
-/

namespace WiringQuote

open Fallible

/-- The cleaned form of something that may be given. -/
def Accepted {ε α β : Type} (clean : β → Except ε α) (a : α) : Prop := ∃ given, clean given = .ok a

/-- A way to coerce a value to the stored form of the parameter with a key. -/
abbrev Coercion := String → Value → Except ParameterFault Value

/-- The values begin with the keys of the defaults, and each was accepted by its parameter. -/
structure Fitting (coerce : Coercion) (defaults values : Environment) : Prop where
  begins : defaults.keys <+: values.keys
  accepted : values.Each fun key value => Accepted (coerce key) value

theorem Fitting.insert {coerce : Coercion} {defaults values : Environment}
    (fitting : Fitting coerce defaults values) {key : String} {given value : Value}
    (coerced : coerce key given = .ok value) :
    Fitting coerce defaults (values.insert key value) :=
  ⟨OrderedMap.keys_prefix_insert fitting.begins key value,
    fitting.accepted.insert ⟨given, coerced⟩⟩

namespace Catalog

/-- Every parameter is found under its key. -/
def Keyed (catalog : Catalog) : Prop := catalog.parameters.KeyedBy (·.key)

theorem keyedBy_keyed {κ α : Type} [DecidableEq κ] (key : α → κ) (items : List α) :
    (keyed key items).KeyedBy key := by
  refine OrderedMap.each_ofList fun entry present => ?_
  obtain ⟨item, _, rfl⟩ := List.mem_map.1 present
  rfl

/-- A catalog that is read from rows finds every parameter under its key. -/
theorem ofRows_keyed {depth : Nat} {rows : Rows} {catalog : Catalog}
    (read : ofRows depth rows = .ok catalog) :
    catalog.Keyed := by
  unfold ofRows at read
  obtain ⟨rules, _, read⟩ := bind_ok_iff.1 read
  dsimp only at read
  split at read
  · cases read
  · cases read
    exact keyedBy_keyed _ _

/-! ## Defaults -/

/-- A default is a text that its definition accepts. -/
theorem each_defaults (definitions : List ParameterDefinition) :
    (defaults definitions).Each fun key value =>
      ∃ definition ∈ definitions, definition.key = key ∧
        ∃ text, definition.coerce (.str text) = .ok value := by
  unfold defaults
  refine List.foldlRecOn definitions _ (OrderedMap.each_empty _)
    fun values start definition listed => ?_
  split
  · exact start
  · split
    · rename_i text _ _ value coerced
      exact start.insert ⟨definition, listed, rfl, text, coerced⟩
    · exact start

variable {catalog : Catalog}

theorem find_of_mem_values (keyed : catalog.Keyed) {definition : ParameterDefinition}
    (present : definition ∈ catalog.parameters.values) :
    catalog.parameters.get? definition.key = some definition := by
  obtain ⟨key, found⟩ := OrderedMap.mem_values_iff.1 present
  have own : definition.key = key := keyed key definition found
  rw [own, found]

/-- The global defaults fit. -/
theorem fitting_defaultGlobals (keyed : catalog.Keyed) :
    Fitting catalog.coerceGlobal catalog.defaultGlobals catalog.defaultGlobals := by
  refine ⟨List.prefix_refl _, fun key value found => ?_⟩
  obtain ⟨definition, listed, rfl, text, coerced⟩ := each_defaults _ key value found
  obtain ⟨inCatalog, isGlobal⟩ := List.mem_filter.1 listed
  refine ⟨.str text, ?_⟩
  unfold coerceGlobal
  rw [find_of_mem_values keyed inCatalog]
  dsimp only
  rw [if_pos isGlobal, coerced]

/-- The defaults of a package fit. -/
theorem fitting_defaultLocals (keyed : catalog.Keyed) (packageId : Value) :
    Fitting (catalog.coerceLocal packageId) (catalog.defaultLocals packageId)
      (catalog.defaultLocals packageId) := by
  refine ⟨List.prefix_refl _, fun key value found => ?_⟩
  obtain ⟨definition, listed, rfl, text, coerced⟩ := each_defaults _ key value found
  obtain ⟨asked, exposed, defined⟩ := List.mem_filterMap.1 listed
  have same : definition.key = asked := keyed asked definition defined
  refine ⟨.str text, ?_⟩
  unfold coerceLocal
  rw [same, defined]
  dsimp only
  rw [if_pos (List.contains_iff_mem.2 exposed), coerced]

end Catalog

end WiringQuote
