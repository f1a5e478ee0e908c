import Mathlib.Data.List.DropRight
import WiringQuote.Formula.Evaluate
import WiringQuote.Proofs.Formula.Omission

/-!
# The shapes of a stored formula

A formula is stored as one object or as a list of objects, or as a text that writes one of them. A list
reads as its objects one after the other, and an object as its fields one after the other, so an object
and the list of its fields, each in an object of its own, are one formula. Only an object that is marked as
a reference is read as a whole.

Whatever the shape, the entries that are read are in normal form: all numbers are finite, and all names are
trimmed and not blank.

* `read_list`, `read_fields`, `read_apart`: the two shapes, also where the reader is at fault.
* `read_normal`: the entries of a formula that is read are normal.
* `read_shapes`: these together, with what follows for quantities and multipliers.
-/

namespace WiringQuote.Text

/-! ## Trimmed texts -/

theorem dropWhile_rdropWhile {p : Char → Bool} {cs : List Char} (starts : cs.dropWhile p = cs) :
    (cs.rdropWhile p).dropWhile p = cs.rdropWhile p := by
  rw [List.dropWhile_eq_self_iff] at starts ⊢
  intro some
  have kept := List.rdropWhile_prefix p cs
  rw [kept.getElem some]
  exact starts (some.trans_le kept.length_le)

theorem trimClass_trimClass (p : Char → Bool) (cs : List Char) :
    trimClass p (trimClass p cs) = trimClass p cs := by
  show ((((cs.dropWhile p).rdropWhile p).dropWhile p).rdropWhile p) = (cs.dropWhile p).rdropWhile p
  rw [dropWhile_rdropWhile (List.dropWhile_idempotent p cs), List.rdropWhile_idempotent]

theorem trim_trim (s : String) : trim (trim s) = trim s := by
  unfold trim trimChars
  rw [String.toList_ofList, trimClass_trimClass]

end WiringQuote.Text

namespace WiringQuote.Formula

open Decimal Text Fallible

variable {depth : Nat}

/-! ## Objects and fields apart -/

/-- The objects in a list. -/
def objects (items : List Value) : List Value := items.filter (·.fields?.isSome)

/-- The fields of an object, each in an object of its own. -/
def apart (fields : List (String × Value)) : List Value := fields.map fun field => .obj [field]

theorem objects_apart (fields : List (String × Value)) : objects (apart fields) = apart fields := by
  refine List.filter_eq_self.2 fun v listed => ?_
  obtain ⟨field, _, rfl⟩ := List.mem_map.1 listed
  rfl

/-- The mark of a reference is no entry. -/
theorem readField_mark : readField "type" (.str "group_ref") = .ok none := by
  have named : (trim "type").isEmpty = false := by decide +kernel
  have unread : finite? (.str "group_ref") = .ok none := by
    have word : (readFloat? (commaToPoint (trim "group_ref"))).filter (·.isFinite) = none := by
      decide +kernel
    exact congrArg Except.ok word
  unfold readField
  rw [if_neg (by simp [named]), if_neg (by decide)]
  dsimp only
  rw [unread]
  rfl

/-- A reference needs more than its mark. -/
theorem readReference_mark : readReference [("type", .str "group_ref")] = .ok [] := by
  have given : (OrderedMap.lookup "factor" [("type", Value.str "group_ref")]).getD (.float 1.0) =
      .float 1.0 := rfl
  have factor : finite? (.float 1.0) = .ok (some 1.0) := by
    show Except.ok (if (1.0 : Float).isFinite then some 1.0 else none) = _
    rw [if_pos (by decide +kernel)]
  unfold readReference
  rw [given, factor]
  rfl

theorem eq_mark_of_isReference {key : String} {value : Value}
    (marked : isReference [(key, value)] = true) : key = "type" ∧ value = .str "group_ref" := by
  unfold isReference OrderedMap.lookup at marked
  by_cases same : key = "type"
  · rw [if_pos same] at marked
    cases value with
    | str kind => exact ⟨same, congrArg Value.str (beq_iff_eq.1 marked)⟩
    | _ => cases marked
  · rw [if_neg same] at marked
    cases marked

/-- An object with one field reads as that field; the mark of a reference alone makes none. -/
theorem readObject_single (key : String) (value : Value) :
    readObject [(key, value)] = do return (← readField key value).toList := by
  unfold readObject
  split
  · rename_i marked
    obtain ⟨rfl, rfl⟩ := eq_mark_of_isReference marked
    rw [readReference_mark, readField_mark]
    rfl
  · rw [readFields, readFields]
    cases readField key value with
    | error fault => rfl
    | ok entry => exact congrArg Except.ok (List.append_nil _)

theorem readFields_cons (key : String) (value : Value) (rest : List (String × Value)) :
    readFields ((key, value) :: rest) =
      do return (← readObject [(key, value)]) ++ (← readFields rest) := by
  rw [readObject_single, readFields]
  cases readField key value <;> rfl

/-- Faults are named before or after the parts are put together. -/
theorem mapError_append {first rest : Except Fault Formula} {parts : Except ReadFault (List Formula)}
    (others : rest.mapError ReadFault.arithmetic = do return (← parts).flatten) :
    (do return (← first) ++ (← rest) : Except Fault Formula).mapError ReadFault.arithmetic =
      do return (← (do return (← first.mapError ReadFault.arithmetic) :: (← parts))).flatten := by
  cases first with
  | error fault => rfl
  | ok entries =>
    cases rest with
    | error fault =>
      cases parts with
      | error known => exact others
      | ok formulas => cases others
    | ok after =>
      cases parts with
      | error known => cases others
      | ok formulas => exact congrArg (Except.map (entries ++ ·)) others

theorem readFields_mapError (fields : List (String × Value)) :
    (readFields fields).mapError ReadFault.arithmetic =
      do return (← (apart fields).mapM (read depth)).flatten := by
  induction fields with
  | nil => rfl
  | cons field rest ih =>
    obtain ⟨key, value⟩ := field
    show _ = do return (← (Value.obj [(key, value)] :: apart rest).mapM (read depth)).flatten
    rw [readFields_cons, List.mapM_cons]
    exact mapError_append ih

theorem readObjects_mapError (items : List Value) :
    (readObjects items).mapError ReadFault.arithmetic =
      do return (← (objects items).mapM (read depth)).flatten := by
  induction items with
  | nil => rfl
  | cons item rest ih =>
    cases item with
    | obj fields =>
      show _ = do return (← (Value.obj fields :: objects rest).mapM (read depth)).flatten
      rw [readObjects, List.mapM_cons]
      exact mapError_append ih
    | _ => exact ih

/-! ## The two shapes -/

/-- A list reads as its objects, one after the other. -/
theorem read_list (items : List Value) :
    read depth (.list items) = do return (← (objects items).mapM (read depth)).flatten :=
  readObjects_mapError items

/-- An object that is no reference reads as its fields, one after the other. -/
theorem read_fields {fields : List (String × Value)} (unmarked : isReference fields = false) :
    read depth (.obj fields) = do return (← (apart fields).mapM (read depth)).flatten := by
  rw [← readFields_mapError]
  show (readObject fields).mapError _ = _
  unfold readObject
  rw [if_neg (Bool.eq_false_iff.1 unmarked)]

/-- So it reads as the list of its fields. -/
theorem read_apart {fields : List (String × Value)} (unmarked : isReference fields = false) :
    read depth (.list (apart fields)) = read depth (.obj fields) := by
  rw [read_list, objects_apart, read_fields unmarked]

/-- A text reads as the object or the list that it writes. -/
theorem read_text {s : String} {v : Value} (written : Json.parse depth s = .ok v)
    (other : v.text? = none) : read depth (.str s) = read depth v := by
  unfold read
  dsimp only
  rw [written]
  cases v with
  | str t => cases other
  | _ => rfl

/-- The value is stored, as it is or as a text that writes it. -/
inductive Holds (depth : Nat) : Value → Value → Prop
  | itself (v : Value) : Holds depth v v
  | text {s : String} {v : Value} : Json.parse depth s = .ok v → Holds depth (.str s) v

theorem Holds.read_eq {stored v : Value} (holds : Holds depth stored v) (other : v.text? = none) :
    read depth stored = read depth v := by
  cases holds with
  | itself => rfl
  | text written => exact read_text written other

/-! ## Normal entries -/

/-- The text is not blank and has no blank characters at its ends. -/
structure IsName (s : String) : Prop where
  some : s.isEmpty = false
  trimmed : trim s = s

/-- The entry has finite numbers and trimmed names only:

* `lookup`: a parameter and contributions;
* `product`: at least one parameter and a coefficient;
* `reference`: a group and a factor;
* `floor`: a least result. -/
inductive Entry.Normal : Entry → Prop
  | lookup {param : String} {table : List (String × Float)} : IsName param →
      (∀ row ∈ table, row.2.isFinite = true) → Normal (.lookup param table)
  | product {params : List String} {coefficient : Float} : params ≠ [] →
      (∀ param ∈ params, IsName param) → coefficient.isFinite = true →
      Normal (.product params coefficient)
  | reference {group : String} {factor : Float} : group.isEmpty = false → factor.isFinite = true →
      Normal (.reference group factor)
  | floor {minimum : Float} : minimum.isFinite = true → Normal (.floor minimum)

theorem isName_trim {s : String} (some : (trim s).isEmpty = false) : IsName (trim s) :=
  ⟨some, trim_trim s⟩

theorem isName_of_mem_paramNames {key param : String} (named : param ∈ paramNames key) :
    IsName param := by
  obtain ⟨listed, some⟩ := List.mem_filter.1 named
  obtain ⟨piece, _, rfl⟩ := List.mem_map.1 listed
  exact isName_trim (by simpa using some)

theorem isFinite_of_coefficient {value : Value} {x : Float} (found : coefficient? value = some x) :
    x.isFinite = true := by
  cases value with
  | num n => exact (Option.filter_eq_some_iff.1 found).2
  | str s => exact (Option.filter_eq_some_iff.1 found).2
  | _ => cases found

theorem normal_of_field {key : String} {value : Value} {entry : Entry}
    (made : entryOfField? key value = some entry) : entry.Normal := by
  unfold entryOfField? at made
  split at made
  · cases made
  rename_i named
  split at made
  · obtain ⟨x, found, rfl⟩ := Option.map_eq_some_iff.1 made
    exact .floor (isFinite_of_coefficient found)
  split at made
  · cases made
    refine .lookup (isName_trim (by simpa using named)) fun row listed => ?_
    obtain ⟨field, _, own⟩ := List.mem_filterMap.1 listed
    obtain ⟨x, found, rfl⟩ := Option.map_eq_some_iff.1 own
    exact isFinite_of_coefficient found
  · split at made
    · cases made
    · rename_i params
      obtain ⟨x, found, rfl⟩ := Option.map_eq_some_iff.1 made
      refine .product (fun none => params (by rw [none]; rfl)) (fun param => ?_)
        (isFinite_of_coefficient found)
      exact isName_of_mem_paramNames

theorem normal_of_reference {fields : List (String × Value)} {entry : Entry}
    (made : entryOfReference? fields = some entry) : entry.Normal := by
  obtain ⟨group, _, own⟩ := Option.bind_eq_some_iff.1 made
  split at own
  · cases own
  · rename_i some
    obtain ⟨x, found, rfl⟩ := Option.map_eq_some_iff.1 own
    exact .reference (by simpa using some) (isFinite_of_coefficient found)

theorem normal_of_object {fields : List (String × Value)} {entry : Entry}
    (listed : entry ∈ objectEntries fields) : entry.Normal := by
  unfold objectEntries at listed
  split at listed
  · exact normal_of_reference (Option.mem_toList.1 listed)
  · obtain ⟨field, _, made⟩ := List.mem_filterMap.1 listed
    exact normal_of_field made

theorem normal_of_structure {v : Value} {entry : Entry} (listed : entry ∈ structureEntries v) :
    entry.Normal := by
  cases v with
  | obj fields => exact normal_of_object listed
  | list items =>
    obtain ⟨fields, _, own⟩ := List.mem_flatMap.1 listed
    exact normal_of_object own
  | _ => cases listed

/-- The entries of a formula that is read are normal. -/
theorem read_normal {stored : Value} {formula : Formula} (done : read depth stored = .ok formula) :
    ∀ entry ∈ formula, entry.Normal := by
  obtain rfl := (read_okIff depth stored).eq done
  intro entry listed
  unfold storedEntries at listed
  split at listed
  · split at listed
    · exact normal_of_structure listed
    · cases listed
  · exact normal_of_structure listed

/-! ## What is read -/

/-- Of a formula that is read, a list has the entries of its objects in order, and an object that is no
reference has those of its fields in order; the list of these fields reads as the same formula, with the
same quantities and the same multiplier. All entries are normal. -/
theorem read_shapes {stored : Value} {formula : Formula} (done : read depth stored = .ok formula) :
    (∀ items, Holds depth stored (.list items) →
      ∃ parts, (objects items).mapM (read depth) = .ok parts ∧ formula = parts.flatten) ∧
    (∀ fields, Holds depth stored (.obj fields) → isReference fields = false →
      (∃ parts, (apart fields).mapM (read depth) = .ok parts ∧ formula = parts.flatten) ∧
      read depth (.list (apart fields)) = .ok formula ∧
      ∀ listed, read depth (.list (apart fields)) = .ok listed → ∀ env : Environment,
        listed.multiplier env = formula.multiplier env ∧
        ∀ base totals, listed.quantity base env totals = formula.quantity base env totals) ∧
    ∀ entry ∈ formula, entry.Normal := by
  refine ⟨fun items holds => ?_, fun fields holds unmarked => ?_, read_normal done⟩
  · rw [holds.read_eq rfl, read_list] at done
    obtain ⟨parts, each, joined⟩ := bind_ok_iff.1 done
    exact ⟨parts, each, (pure_ok_iff.1 joined).symm⟩
  · rw [holds.read_eq rfl] at done
    have asList : read depth (.list (apart fields)) = .ok formula := (read_apart unmarked).trans done
    rw [read_fields unmarked] at done
    obtain ⟨parts, each, joined⟩ := bind_ok_iff.1 done
    refine ⟨⟨parts, each, (pure_ok_iff.1 joined).symm⟩, asList, fun listed again env => ?_⟩
    obtain rfl := Except.ok.inj (again.symm.trans asList)
    exact ⟨rfl, fun _ _ => rfl⟩

deriving instance DecidableEq for Entry

/-- A lookup, a product and a floor, among fields that make no entry. -/
def mixedFields : List (String × Value) :=
  [("baujahr_klasse", .obj [("vor_1960", .int 4), ("ab_1990", .null)]), ("  ", .int 1),
    (" raumgroesse * unterputz ", .str "0,5"), ("type", .str "other"), ("floor", .float 1.0),
    ("etage", .bool true)]

def mixedFormula : Formula :=
  [.lookup "baujahr_klasse" [("vor_1960", 4.0)], .product ["raumgroesse", "unterputz"] 0.5,
    .floor 1.0]

theorem mixedFields_shapes : read Json.usualDepth (.obj mixedFields) = .ok mixedFormula ∧
    read Json.usualDepth (.list (apart mixedFields)) = .ok mixedFormula ∧
    ∀ entry ∈ mixedFormula, entry.Normal := by
  have done : read Json.usualDepth (.obj mixedFields) = .ok mixedFormula :=
    toOption_eq_some_iff.1 (by decide +kernel)
  obtain ⟨_, fieldByField, normal⟩ := read_shapes done
  have unmarked : isReference mixedFields = false := by decide +kernel
  exact ⟨done, (fieldByField mixedFields (.itself _) unmarked).2.1, normal⟩

end WiringQuote.Formula
