import WiringQuote.Proofs.Formula.Omission

/-!
# Loading by omission

A catalog is read from rows that nobody has checked. The intent is that each row, each entry of a
formula and each bucket of a selector is read on its own, and what is malformed is left out. That
holds as long as every formula text of a valid package item is not nested too deep and every whole
number that its formulas and its selector are read for is in the range of binary64. One such number
anywhere, and no catalog is loaded at all.

* `Catalog.byOmission`: the catalog of what is well formed, or the refusal of an incomplete one.
* `Rule.ofItem_okIff`: a package item that is readable is read by omission, and any other is at fault.
* `Catalog.ofRows_byOmission_iff`: rows are loaded by omission exactly if their items are readable.
* `Catalog.beyondRange_loadsNothing`: rows with one coefficient out of range.
-/

namespace WiringQuote

open Fallible

/-! ## Selectors -/

namespace Selector

/-- The bucket of an object that names a product. A limit that is no number counts as none. -/
def bucket? (fields : List (String × Value)) : Option Bucket :=
  (productKey? fields).map fun productId =>
    ⟨(OrderedMap.lookup "max" fields).bind fun limit => limit.asFloat.toOption, productId⟩

/-- The buckets and the fixed product of a stored selector, each read on its own. -/
def byOmission : Value → Selector
  | .obj fields =>
    ⟨((bucketItems fields).filterMap Value.fields?).filterMap bucket?,
      ((OrderedMap.lookup "selected_product_id" fields).filter (·.isPresent)).map (·.text)⟩
  | _ => empty

/-- A bucket whose limit is in range. Nothing is asked of one that names no product. -/
def ReadableBucket (fields : List (String × Value)) : Prop :=
  (productKey? fields).isSome = true → ((OrderedMap.lookup "max" fields).getD .null).InRange

def Readable : Value → Prop
  | .obj fields => ∀ bucket ∈ (bucketItems fields).filterMap Value.fields?, ReadableBucket bucket
  | _ => True

theorem readLimit_okIff (limit : Value) :
    OkIff limit.InRange (readLimit limit) limit.asFloat.toOption := by
  cases limit with
  | num n =>
    cases reached : n.toFloat with
    | ok x =>
      refine .of_ok (Value.inRange_num_iff.2 ⟨x, reached⟩) ?_
      simp [readLimit, Value.asFloat, reached, Except.mapError, Except.toOption]
    | error fault =>
      have failed : readLimit (.num n) = .error fault := by
        simp [readLimit, Value.asFloat, reached, Except.mapError]
      exact .of_error (by simp [Value.inRange_num_iff, reached]) failed
  | str s =>
    refine .of_ok (Value.inRange_of_ne fun n same => by cases same) ?_
    simp only [readLimit, Value.asFloat]
    cases Decimal.readFloat? s <;> rfl
  | _ => exact .of_ok (Value.inRange_of_ne fun n same => by cases same) rfl

theorem readBuckets_okIff (items : List Value) :
    OkIff (∀ bucket ∈ items.filterMap Value.fields?, ReadableBucket bucket) (readBuckets items)
      ((items.filterMap Value.fields?).filterMap bucket?) := by
  induction items with
  | nil => exact .of_ok (by simp) rfl
  | cons item rest ih =>
    cases item with
    | obj fields =>
      rw [readBuckets]
      refine OkIff.congr List.forall_mem_cons.symm ?_
      cases named : productKey? fields with
      | none =>
        have made : bucket? fields = none := by simp [bucket?, named]
        rw [List.filterMap_cons_some (by rfl), List.filterMap_cons_none made]
        exact ih.congr (by simp [ReadableBucket, named])
      | some productId =>
        have made : bucket? fields =
            some ⟨((OrderedMap.lookup "max" fields).getD .null).asFloat.toOption, productId⟩ := by
          simp only [bucket?, named, Option.map_some]
          cases OrderedMap.lookup "max" fields <;> rfl
        rw [List.filterMap_cons_some (by rfl), List.filterMap_cons_some made]
        refine ((readLimit_okIff _).bind ih.map).congr ?_
        simp [ReadableBucket, named]
    | _ => exact ih

theorem read_okIff (stored : Value) : OkIff (Readable stored) (read stored) (byOmission stored) := by
  cases stored with
  | obj fields => exact (readBuckets_okIff _).map
  | _ => exact .of_ok trivial rfl

end Selector

/-! ## Rules -/

/-- A package item whose formulas and whose selector are readable. -/
structure PackageItem.Readable (depth : Nat) (item : PackageItem) : Prop where
  material : Formula.Readable depth item.material
  hours : Formula.Readable depth item.hours
  selector : Selector.Readable item.selector

/-- The rule of a package item, with all entries and buckets that are well formed. -/
def Rule.byOmission (depth : Nat) (item : PackageItem) : Rule where
  id := item.id
  packageId := item.packageId
  group := item.group
  base := plainZero item.base
  material := Formula.storedEntries depth item.material
  hours := Formula.storedEntries depth item.hours
  selector := Selector.byOmission item.selector

theorem Rule.ofItem_okIff (depth : Nat) (item : PackageItem) :
    OkIff (item.Readable depth) (Rule.ofItem depth item) (Rule.byOmission depth item) := by
  unfold Rule.ofItem
  refine ((Formula.read_okIff depth item.material).bind ((Formula.read_okIff depth item.hours).bind
    (Selector.read_okIff item.selector).mapError.map)).congr ⟨?_, ?_⟩
  · rintro ⟨material, hours, selector⟩
    exact ⟨material, hours, selector⟩
  · exact fun readable => ⟨readable.material, readable.hours, readable.selector⟩

/-! ## Catalogs -/

namespace Catalog

/-- The package items of the valid rows are readable. -/
def Readable (depth : Nat) (rows : Rows) : Prop :=
  ∀ item ∈ rows.items.filterMap PackageItem.ofRow?, item.Readable depth

/-- The catalog of everything in the rows that is well formed. It is refused only if no package or no
product is. -/
def byOmission (depth : Nat) (rows : Rows) : Except CatalogFault Catalog :=
  let packages := keyed Package.id (rows.packages.filterMap Package.ofRow?)
  let products := rows.products.filterMap Product.ofRow?
  if packages.isEmpty || products.isEmpty then .error (.incomplete packages.size products.length)
  else .ok {
    packages
    rules := (rows.items.filterMap PackageItem.ofRow?).map (Rule.byOmission depth)
    products
    groups := keyed ProductGroup.id (rows.groups.filterMap ProductGroup.ofRow?)
    parameters := keyed ParameterDefinition.key
      (rows.parameters.filterMap ParameterDefinition.ofRow?)
    links := rows.links.filterMap ParameterLink.ofRow? }

theorem ofRows_readable {depth : Nat} {rows : Rows} (readable : Readable depth rows) :
    ofRows depth rows = byOmission depth rows := by
  have rules := (OkIff.mapM (Rule.ofItem_okIff depth)).mapError (f := CatalogFault.formula).ok readable
  unfold ofRows byOmission
  rw [rules]
  dsimp only [bind, Except.bind]
  split <;> rfl

theorem ofRows_unreadable {depth : Nat} {rows : Rows} (unreadable : ¬ Readable depth rows) :
    ∃ fault, ofRows depth rows = .error (.formula fault) := by
  obtain ⟨fault, failed⟩ := (OkIff.mapM (Rule.ofItem_okIff depth)).error unreadable
  refine ⟨fault, ?_⟩
  unfold ofRows
  rw [failed]
  rfl

theorem byOmission_outcome (depth : Nat) (rows : Rows) :
    (∃ catalog, byOmission depth rows = .ok catalog) ∨
      ∃ packages products, byOmission depth rows = .error (.incomplete packages products) := by
  unfold byOmission
  dsimp only
  split
  · exact .inr ⟨_, _, rfl⟩
  · exact .inl ⟨_, rfl⟩

/-- Rows are loaded by omission exactly if their package items are readable. Only then do they make a
catalog or an incomplete one. -/
theorem ofRows_byOmission_iff (depth : Nat) (rows : Rows) :
    (ofRows depth rows = byOmission depth rows ↔ Readable depth rows) ∧
    ((∃ catalog, ofRows depth rows = .ok catalog) ∨
      (∃ packages products, ofRows depth rows = .error (.incomplete packages products)) ↔
      Readable depth rows) := by
  by_cases readable : Readable depth rows
  · have same := ofRows_readable readable
    refine ⟨⟨fun _ => readable, fun _ => same⟩, ⟨fun _ => readable, fun _ => ?_⟩⟩
    rw [same]
    exact byOmission_outcome depth rows
  · obtain ⟨fault, failed⟩ := ofRows_unreadable readable
    refine ⟨⟨fun same => ?_, fun never => absurd never readable⟩,
      ⟨fun loaded => ?_, fun never => absurd never readable⟩⟩
    · rw [failed] at same
      rcases byOmission_outcome depth rows with ⟨catalog, made⟩ | ⟨_, _, refused⟩
      · cases same.trans made
      · cases same.trans refused
    · rw [failed] at loaded
      rcases loaded with ⟨_, same⟩ | ⟨_, _, same⟩ <;> cases same

/-! ## One number out of range -/

/-- A room with sockets by its size and one light. -/
def sizedRoom (perSize : Int) : Rows where
  packages := [.obj [("id", .int 1), ("name", .str "Room")]]
  items := [
    .obj [("id", .int 1), ("package_id", .int 1), ("produkt_gruppe_id", .str "socket"),
      ("quantity_base", .int 2), ("multipliers_material", .obj [("size", .int perSize)])],
    .obj [("id", .int 2), ("package_id", .int 1), ("produkt_gruppe_id", .str "light"),
      ("quantity_base", .int 1)]]
  products := [.obj [("product_id", .str "SKT"), ("name", .str "Socket")]]
  groups := []
  parameters := []
  links := []

/-- The message of the fault, or the ids of the rules with the numbers of their entries. -/
def outcome (loaded : Except CatalogFault Catalog) : Except String (List (Int × Nat)) :=
  (loaded.mapError CatalogFault.message).map fun catalog =>
    catalog.rules.map fun rule => (rule.id, rule.material.length)

theorem sizedRoom_outcomes :
    outcome (byOmission Json.usualDepth (sizedRoom (10 ^ 400))) = .ok [(1, 0), (2, 0)] ∧
      outcome (ofRows Json.usualDepth (sizedRoom (10 ^ 400))) =
        .error "int too large to convert to float" := by
  decide +kernel

/-- A coefficient beyond binary64 costs the whole catalog, not the one entry. -/
theorem beyondRange_loadsNothing :
    (∃ fault, ofRows Json.usualDepth (sizedRoom (10 ^ 400)) = .error (.formula fault)) ∧
      ∃ catalog, byOmission Json.usualDepth (sizedRoom (10 ^ 400)) = .ok catalog ∧
        catalog.rules.map (fun rule => (rule.id, rule.material.length)) = [(1, 0), (2, 0)] := by
  obtain ⟨omitted, failed⟩ := sizedRoom_outcomes
  constructor
  · refine ofRows_unreadable fun readable => ?_
    rw [ofRows_readable readable, omitted] at failed
    cases failed
  · obtain ⟨catalog, made, rules⟩ := map_ok_iff.1 omitted
    exact ⟨catalog, mapError_ok_iff.1 made, rules⟩

end Catalog

end WiringQuote
