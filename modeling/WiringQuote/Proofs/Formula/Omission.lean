import WiringQuote.Proofs.Catalog.InRange
import WiringQuote.Proofs.Fallible

/-!
# Formulas by omission

What a stored formula says if each entry is read on its own and whatever is malformed is left out. The
reader agrees with that on formulas whose numbers are in range and whose text is not nested too
deep. On any other formula it is at fault, and the well-formed entries are lost as well.

* `coefficient?`, `entryOfField?`, `entryOfReference?`, `storedEntries`: reading by omission, which has
  no faults.
* `Readable`: the formulas that are read.
* `read_okIff`: those are read by omission, and every other one is at fault.
-/

namespace WiringQuote.Formula

open Decimal Text Fallible

/-! ## Reading by omission -/

/-- The finite number that a value is or writes. A whole number beyond binary64 is no such number. -/
def coefficient? : Value → Option Float
  | .num n => n.toFloat.toOption.filter (·.isFinite)
  | .str s => (readFloat? (commaToPoint (trim s))).filter (·.isFinite)
  | _ => none

/-- The fields of a table that have a number. -/
def tableEntries (fields : List (String × Value)) : List (String × Float) :=
  fields.filterMap fun field => (coefficient? field.2).map fun x => (field.1, x)

/-- The entry that a field makes, whatever the other fields are. -/
def entryOfField? (key : String) (value : Value) : Option Entry :=
  if (trim key).isEmpty then none
  else if key = "floor" then (coefficient? value).map .floor
  else match value with
    | .obj fields => some (.lookup (trim key) (tableEntries fields))
    | _ =>
      if (paramNames key).isEmpty then none
      else (coefficient? value).map fun x => .product (paramNames key) x

/-- The factor of a reference, one unless it is given. -/
def givenFactor (fields : List (String × Value)) : Value :=
  (OrderedMap.lookup "factor" fields).getD (.float 1.0)

/-- The reference that an object makes with a group and a factor. -/
def entryOfReference? (fields : List (String × Value)) : Option Entry :=
  ((OrderedMap.lookup "group_id" fields).bind Value.text?).bind fun group =>
    if group.isEmpty then none else (coefficient? (givenFactor fields)).map fun x => .reference group x

def objectEntries (fields : List (String × Value)) : Formula :=
  if isReference fields then (entryOfReference? fields).toList
  else fields.filterMap fun field => entryOfField? field.1 field.2

/-- The entries of an object, or those of the objects in a list. -/
def structureEntries : Value → Formula
  | .obj fields => objectEntries fields
  | .list items => (items.filterMap Value.fields?).flatMap objectEntries
  | _ => []

/-- The entries of a stored formula. A text that is not read has none. -/
def storedEntries (depth : Nat) : Value → Formula
  | .str s =>
    match Json.parse depth s with
    | .ok v => structureEntries v
    | .error _ => []
  | v => structureEntries v

/-! ## What is read -/

/-- A field whose numbers are in range. Nothing is asked of a field with a blank key, and of the field
`floor` no table is read. -/
def ReadableField (key : String) (value : Value) : Prop :=
  (trim key).isEmpty = false →
    value.InRange ∧ (key ≠ "floor" → ∀ inner ∈ value.fields?.getD [], inner.2.InRange)

def ReadableObject (fields : List (String × Value)) : Prop :=
  if isReference fields then (givenFactor fields).InRange
  else ∀ field ∈ fields, ReadableField field.1 field.2

def ReadableStructure : Value → Prop
  | .obj fields => ReadableObject fields
  | .list items => ∀ fields ∈ items.filterMap Value.fields?, ReadableObject fields
  | _ => True

/-- A stored formula whose numbers are in range and whose text, if it is one, is not nested deeper than
its reader has room for. -/
def Readable (depth : Nat) : Value → Prop
  | .str s =>
    (∀ v, Json.parse depth s = .ok v → ReadableStructure v) ∧
      ∀ container, Json.parse depth s ≠ .error (.tooDeep container)
  | v => ReadableStructure v

/-! ## The reader -/

theorem finite?_okIff (value : Value) : OkIff value.InRange (finite? value) (coefficient? value) := by
  cases value with
  | num n =>
    cases reached : n.toFloat with
    | ok x =>
      refine .of_ok (Value.inRange_num_iff.2 ⟨x, reached⟩) (bind_ok_iff.2 ⟨x, reached, ?_⟩)
      simp [coefficient?, reached, Except.toOption, Option.filter, pure, Except.pure]
    | error fault =>
      refine .of_error ?_ (bind_error_iff.2 (.inl reached))
      simp [Value.inRange_num_iff, reached]
  | _ => exact .of_ok (Value.inRange_of_ne fun n same => by cases same) rfl

theorem readTable_okIff (fields : List (String × Value)) :
    OkIff (∀ field ∈ fields, field.2.InRange) (readTable fields) (tableEntries fields) := by
  induction fields with
  | nil => exact .of_ok (by simp) rfl
  | cons field rest ih =>
    obtain ⟨key, value⟩ := field
    rw [readTable]
    refine ((finite?_okIff value).bind ?_).congr List.forall_mem_cons.symm
    cases found : coefficient? value with
    | none =>
      rw [show tableEntries ((key, value) :: rest) = tableEntries rest by simp [tableEntries, found]]
      exact ih.map
    | some x =>
      rw [show tableEntries ((key, value) :: rest) = (key, x) :: tableEntries rest by
        simp [tableEntries, found]]
      exact ih.map

theorem readField_okIff (key : String) (value : Value) :
    OkIff (ReadableField key value) (readField key value) (entryOfField? key value) := by
  unfold readField entryOfField?
  by_cases blank : (trim key).isEmpty = true
  · rw [if_pos blank, if_pos blank]
    exact .of_ok (fun named => by rw [blank] at named; cases named) rfl
  rw [if_neg blank, if_neg blank]
  have named : (trim key).isEmpty = false := by simpa using blank
  by_cases floor : key = "floor"
  · rw [if_pos floor, if_pos floor]
    refine (finite?_okIff value).map.congr ⟨fun inRange _ => ?_, fun readable => (readable named).1⟩
    exact ⟨inRange, fun other => absurd floor other⟩
  rw [if_neg floor, if_neg floor]
  cases value with
  | obj fields =>
    refine (readTable_okIff fields).map.congr ⟨fun inRange _ => ⟨?_, fun _ => inRange⟩, ?_⟩
    · exact Value.inRange_of_ne fun n same => by cases same
    · exact fun readable => (readable named).2 floor
  | _ =>
    refine ((finite?_okIff _).bind (.of_ok (p := True) trivial ?_)).congr ?_
    · cases paramNames key <;> cases coefficient? _ <;> rfl
    · refine ⟨fun inRange _ => ⟨inRange.1, fun _ inner present => ?_⟩, fun readable => ?_⟩
      · cases present
      · exact ⟨(readable named).1, trivial⟩

theorem readFields_okIff (fields : List (String × Value)) :
    OkIff (∀ field ∈ fields, ReadableField field.1 field.2) (readFields fields)
      (fields.filterMap fun field => entryOfField? field.1 field.2) := by
  induction fields with
  | nil => exact .of_ok (by simp) rfl
  | cons field rest ih =>
    obtain ⟨key, value⟩ := field
    rw [readFields]
    refine ((readField_okIff key value).bind ?_).congr List.forall_mem_cons.symm
    rw [List.filterMap_cons]
    cases entryOfField? key value <;> exact ih.map

theorem readReference_okIff (fields : List (String × Value)) :
    OkIff (givenFactor fields).InRange (readReference fields) (entryOfReference? fields).toList := by
  unfold readReference entryOfReference?
  refine ((finite?_okIff _).bind (.of_ok (p := True) trivial ?_)).congr (and_iff_left trivial)
  cases OrderedMap.lookup "group_id" fields with
  | none => rfl
  | some group =>
    cases group with
    | str name =>
      simp only [Option.bind_some, Value.text?]
      cases coefficient? (givenFactor fields) with
      | none => cases name.isEmpty <;> rfl
      | some x =>
        show pure (if name.isEmpty then [] else [Entry.reference name x]) = _
        split <;> rfl
    | _ => rfl

theorem readObject_okIff (fields : List (String × Value)) :
    OkIff (ReadableObject fields) (readObject fields) (objectEntries fields) := by
  unfold readObject objectEntries ReadableObject
  split
  · exact readReference_okIff fields
  · exact readFields_okIff fields

theorem readObjects_okIff (items : List Value) :
    OkIff (∀ fields ∈ items.filterMap Value.fields?, ReadableObject fields) (readObjects items)
      ((items.filterMap Value.fields?).flatMap objectEntries) := by
  induction items with
  | nil => exact .of_ok (by simp) rfl
  | cons item rest ih =>
    cases item with
    | obj fields => exact ((readObject_okIff fields).bind ih.map).congr List.forall_mem_cons.symm
    | _ => exact ih

/-- An object or a list of objects is read by omission if it is readable; otherwise the reader is at
fault. -/
theorem readStructure_okIff (v : Value) :
    OkIff (ReadableStructure v) (readStructure v) (structureEntries v) := by
  cases v with
  | obj fields => exact readObject_okIff fields
  | list items => exact readObjects_okIff items
  | _ => exact .of_ok trivial rfl

/-- A stored formula is read by omission if it is readable; otherwise the reader is at fault. -/
theorem read_okIff (depth : Nat) (stored : Value) :
    OkIff (Readable depth stored) (read depth stored) (storedEntries depth stored) := by
  cases stored with
  | str s =>
    simp only [read, storedEntries, Readable]
    cases Json.parse depth s with
    | ok v =>
      refine (readStructure_okIff v).mapError.congr ⟨fun readable => ⟨?_, ?_⟩, fun readable => ?_⟩
      · rintro _ ⟨⟩
        exact readable
      · intro container same
        cases same
      · exact readable.1 v rfl
    | error fault =>
      cases fault with
      | malformed => exact .of_ok (by simp) rfl
      | tooDeep container => exact .of_error (by simp) rfl
  | _ =>
    simp only [read, storedEntries, Readable]
    exact (readStructure_okIff _).mapError

end WiringQuote.Formula
