import WiringQuote.Proofs.Decimal.Range
import WiringQuote.Proofs.LineItem.Rows
import WiringQuote.Proofs.OrderedMap.Sums
import WiringQuote.Proofs.Quantity.Completion

/-!
# Rows of whole units

Rows that are made from rules hold whole units, which are added without a bound. The hours of a row are
computed in binary64, so its units have to be in range: a row can be made, merged or changed as long as
it ends up with less than eight times `unitLimit`.

* `make_total`, `merge_total`, `withProduct_total`, `withQuantity_total`: each change of a row.
* `Sheet.add_total`: rows of a sheet.
* `build_total`: the rows of rules whose quantities are finite.
-/

namespace WiringQuote

open Decimal Fallible

/-! ## Loops with a limit -/

/-- A loop whose steps use up a limited amount succeeds if they use up less than the limit together. -/
theorem Fallible.foldlM_within {ε α β : Type} {f : β → α → Except ε β} {p : β → Nat → Prop}
    {c : α → Nat} {limit : Nat} {xs : List α} {init : β} (start : p init 0) (room : (xs.map c).sum < limit)
    (step : ∀ x ∈ xs, ∀ b k, p b k → k + c x < limit →
      ∃ next, f b x = .ok next ∧ p next (k + c x)) :
    ∃ final, xs.foldlM f init = .ok final ∧ p final (xs.map c).sum := by
  -- By induction on the list, so for any amount that is used up already.
  have general : ∀ n b, p b n → n + (xs.map c).sum < limit →
      ∃ final, xs.foldlM f b = .ok final ∧ p final (n + (xs.map c).sum) := by
    clear start room
    induction xs with
    | nil => exact fun n b held _ => ⟨b, rfl, held⟩
    | cons x rest ih =>
      intro n b held room
      rw [List.map_cons, List.sum_cons, ← Nat.add_assoc] at room ⊢
      obtain ⟨next, first, kept⟩ := step x List.mem_cons_self b n held (by omega)
      rw [List.foldlM_cons, first]
      exact ih (fun y inRest => step y (List.mem_cons_of_mem _ inRest)) _ next kept room
  have whole := general 0 init start (by rw [Nat.zero_add]; exact room)
  rw [Nat.zero_add] at whole
  exact whole

/-! ## Single rows -/

/-- The units that a whole number counts; none for another number. -/
def Number.units : Number → Nat
  | .int n => n.toNat
  | .float _ => 0

namespace LineItem

def units (item : LineItem) : Nat := item.quantity.units

/-- The row holds whole units, and its hours follow a binary64 multiplier. -/
structure Whole (item : LineItem) : Prop where
  quantity : item.quantity = .int item.units
  multiplier : ∃ factor, item.hoursMultiplier = .float factor

theorem units_of_quantity {item : LineItem} {n : Nat} (quantity : item.quantity = .int n) :
    item.units = n := by
  unfold units
  rw [quantity]
  rfl

theorem whole_of_quantity {item : LineItem} {n : Nat} (quantity : item.quantity = .int n)
    (multiplier : ∃ factor, item.hoursMultiplier = .float factor) :
    item.Whole ∧ item.units = n := by
  have own := units_of_quantity quantity
  exact ⟨⟨own.symm ▸ quantity, multiplier⟩, own⟩

variable {item : LineItem} {n : Nat}

theorem hoursFor_total (small : n < 8 * unitLimit) (perUnit : PerRole Float) :
    ∃ hours, hoursFor perUnit (.int n) = .ok hours :=
  bind_total (ofInt_total small) fun _ _ => ⟨_, rfl⟩

theorem unitHours_total {multiplier : Number} (binary : ∃ factor, multiplier = .float factor)
    (product : Product) : ∃ perUnit, unitHours product multiplier = .ok perUnit := by
  obtain ⟨factor, rfl⟩ := binary
  exact ⟨_, rfl⟩

/-- A row of so many units can be made. -/
theorem make_total (small : n < 8 * unitLimit) (place : Placement) (product : Product)
    (factor : Float) (calculated : Option Float) (isProtection : Bool) :
    ∃ row, make place product (.int n) (.float factor) calculated isProtection = .ok row ∧
      row.Whole ∧ row.units = n := by
  have made : ∃ row, make place product (.int n) (.float factor) calculated isProtection =
      .ok row := by
    refine bind_total (unitHours_total ⟨factor, rfl⟩ product) fun perUnit _ => ?_
    refine bind_total (hoursFor_total small perUnit) fun hours _ => ?_
    cases calculated with
    | none => exact bind_total (ofInt_total small) fun _ _ => ⟨_, rfl⟩
    | some x => exact ⟨_, rfl⟩
  obtain ⟨row, made⟩ := made
  obtain ⟨_, quantity, multiplier⟩ := make_fields made
  exact ⟨row, made, whole_of_quantity quantity ⟨factor, multiplier⟩⟩

/-- A row of so many units can be switched to another product. -/
theorem withProduct_total (whole : item.Whole) (small : item.units < 8 * unitLimit)
    (product : Product) :
    ∃ row, item.withProduct product = .ok row ∧ row.Whole ∧ row.units = item.units := by
  obtain ⟨factor, binary⟩ := whole.multiplier
  have counted : ∃ x, item.quantity.toFloat = .ok x := by
    rw [whole.quantity]
    exact ofInt_total small
  obtain ⟨row, switched⟩ : ∃ row, item.withProduct product = .ok row :=
    exists_withProduct_iff.2 ⟨⟨factor, by rw [binary]; rfl⟩, counted⟩
  refine ⟨row, switched, ?_⟩
  obtain ⟨_, _, rfl⟩ := withProduct_ok switched
  exact whole_of_quantity whole.quantity whole.multiplier

/-- The units of a row can be set. -/
theorem withQuantity_total (whole : item.Whole) (small : n < 8 * unitLimit) :
    ∃ row, item.withQuantity (.int n) = .ok row ∧ row.Whole ∧ row.units = n := by
  obtain ⟨row, counted⟩ : ∃ row, item.withQuantity (.int n) = .ok row :=
    exists_withQuantity_iff.2 (ofInt_total small)
  refine ⟨row, counted, ?_⟩
  obtain ⟨_, rfl⟩ := withQuantity_ok counted
  exact whole_of_quantity rfl whole.multiplier

/-- Two rows can be merged. -/
theorem merge_total {target other : LineItem} (first : target.Whole) (second : other.Whole)
    (small : target.units + other.units < 8 * unitLimit) :
    ∃ row, target.merge other = .ok row ∧ row.Whole ∧ row.units = target.units + other.units := by
  have added : target.quantity.add other.quantity = .ok (.int (target.units + other.units : Nat)) := by
    rw [first.quantity, second.quantity]
    rfl
  obtain ⟨row, merged⟩ : ∃ row, target.merge other = .ok row :=
    exists_merge_iff.2 ⟨_, added, ofInt_total small⟩
  refine ⟨row, merged, ?_⟩
  obtain ⟨_, _, _, _, done, rfl⟩ := merge_ok merged
  rw [added] at done
  cases done
  exact whole_of_quantity rfl first.multiplier

/-! ## Lists of rows -/

/-- The rows hold whole units, at most so many together. -/
structure Within (rows : List LineItem) (n : Nat) : Prop where
  whole : ∀ row ∈ rows, row.Whole
  units : (rows.map units).sum ≤ n

theorem Within.mono {rows : List LineItem} {k : Nat} (within : Within rows n) (more : n ≤ k) :
    Within rows k :=
  ⟨within.whole, within.units.trans more⟩

theorem Within.sublist {rows kept : List LineItem} (within : Within rows n)
    (some : kept.Sublist rows) : Within kept n where
  whole := fun row present => within.whole row (some.subset present)
  units := (List.Sublist.sum_le_sum (some.map _) fun _ _ => Nat.zero_le _).trans within.units

theorem Within.units_le {rows : List LineItem} (within : Within rows n) (present : item ∈ rows) :
    item.units ≤ n :=
  (List.le_sum_of_mem (List.mem_map.2 ⟨item, present, rfl⟩)).trans within.units

section Maps

variable {κ : Type} [DecidableEq κ] {rows : OrderedMap κ LineItem} {key : κ}

omit [DecidableEq κ] in
theorem within_empty : Within (OrderedMap.empty : OrderedMap κ LineItem).values 0 where
  whole := fun _ present => by cases present
  units := Nat.le_refl 0

theorem Within.of_get? (within : Within rows.values n) (found : rows.get? key = some item) :
    item.Whole ∧ item.units ≤ n := by
  have present : item ∈ rows.values := OrderedMap.mem_values_iff.2 ⟨key, found⟩
  exact ⟨within.whole item present, within.units_le present⟩

/-- A row takes the place of the one under its key, and holds so many units more. -/
theorem Within.insert {row : LineItem} {more : Nat} (within : Within rows.values n)
    (whole : row.Whole) (holds : row.units = rows.numberAt LineItem.units key + more) :
    Within (rows.insert key row).values (n + more) := by
  refine ⟨fun other present => ?_, ?_⟩
  · obtain ⟨k, found⟩ := OrderedMap.mem_values_iff.1 present
    rw [OrderedMap.get?_insert] at found
    split at found
    · cases found
      exact whole
    · exact (within.of_get? found).1
  · have written := rows.sum_insert LineItem.units key row
    have before : rows.sum LineItem.units ≤ n := within.units
    show (rows.insert key row).sum LineItem.units ≤ n + more
    omega

/-- A row is put under a key that is free, or absorbed by the row that is there. -/
theorem Within.put_total {absorb : LineItem → Except Fault LineItem}
    (within : Within rows.values n) (whole : item.Whole)
    (absorbs : ∀ existing : LineItem, existing.Whole → existing.units ≤ n →
      ∃ row, absorb existing = .ok row ∧ row.Whole ∧ row.units = existing.units + item.units) :
    rows.get? key = none ∧ Within (rows.insert key item).values (n + item.units) ∨
      ∃ existing row, rows.get? key = some existing ∧ absorb existing = .ok row ∧
        Within (rows.insert key row).values (n + item.units) := by
  cases found : rows.get? key with
  | none =>
    refine .inl ⟨rfl, within.insert whole ?_⟩
    rw [OrderedMap.numberAt, found]
    exact (Nat.zero_add _).symm
  | some existing =>
    obtain ⟨own, most⟩ := within.of_get? found
    obtain ⟨row, absorbed, rowWhole, holds⟩ := absorbs existing own most
    refine .inr ⟨existing, row, rfl, absorbed, within.insert rowWhole ?_⟩
    rw [OrderedMap.numberAt, found]
    exact holds

end Maps

/-! ## Rows of rules -/

theorem Sheet.add_total {sheet : Sheet} (within : Within sheet.rows.values n) (whole : item.Whole)
    (small : n + item.units < 8 * unitLimit) :
    ∃ next, sheet.add item = .ok next ∧ Within next.rows.values (n + item.units) := by
  unfold add
  rcases within.put_total whole fun existing own most => merge_total own whole (by omega) with
    ⟨free, holds⟩ | ⟨existing, row, found, merged, holds⟩
  · rw [free]
    exact ⟨_, rfl, holds⟩
  · rw [found]
    exact ⟨_, bind_ok_iff.2 ⟨row, merged, rfl⟩, holds⟩

/-- The product that a resolved rule makes a row of. -/
def selected? (catalog : Catalog) (preference : Preference) (resolved : ResolvedRule) :
    Option Product :=
  if counts resolved then
    catalog.select resolved.rule ⟨.float resolved.quantity,
      (catalog.package? resolved.packageId).bind (·.qualityLevel), preference.globalQuality,
      preference.location⟩
  else none

/-- The units of the row that a resolved rule makes; none if it makes no row. -/
def demanded (catalog : Catalog) (preference : Preference) (resolved : ResolvedRule) : Nat :=
  match selected? catalog preference resolved, roundQuantity (.float resolved.quantity) with
  | some _, .ok n => n.toNat
  | _, _ => 0

variable {catalog : Catalog} {preference : Preference} {resolved : ResolvedRule}

theorem addRule_eq_of_selected {product : Product} (sheet : Sheet)
    (selected : selected? catalog preference resolved = some product) :
    addRule catalog preference sheet resolved = (do
      sheet.add (← ofRule (catalog.package? resolved.packageId) resolved product)) := by
  unfold selected? at selected
  unfold addRule
  split at selected
  · rename_i counted
    rw [if_pos counted]
    dsimp only
    rw [selected]
  · cases selected

theorem counts_iff : counts resolved = true ↔
    resolved.rule.group ∉ ProductGroups.protection ∧ ¬ resolved.quantity ≤ 0 := by
  simp [counts]

theorem counts_of_selected {product : Product}
    (selected : selected? catalog preference resolved = some product) : counts resolved = true := by
  unfold selected? at selected
  split at selected
  · assumption
  · cases selected

theorem above_of_selected {product : Product}
    (selected : selected? catalog preference resolved = some product) :
    ¬ resolved.quantity ≤ 0 :=
  (counts_iff.1 (counts_of_selected selected)).2

/-- The rule needs a product, and there is none. -/
def unserved (catalog : Catalog) (preference : Preference) (resolved : ResolvedRule) : Bool :=
  counts resolved && (selected? catalog preference resolved).isNone

/-- The report on a rule without a product. -/
def missing (resolved : ResolvedRule) : Diagnostic :=
  .noProduct resolved.rule.id resolved.rule.group resolved.instanceId

/-- A rule without a product is reported; another that makes no row changes nothing. -/
theorem addRule_eq_of_not_selected (sheet : Sheet)
    (unselected : selected? catalog preference resolved = none) :
    addRule catalog preference sheet resolved =
      .ok (if unserved catalog preference resolved then sheet.report (missing resolved)
        else sheet) := by
  unfold unserved
  rw [unselected, Option.isNone_none, Bool.and_true]
  unfold selected? at unselected
  unfold addRule
  by_cases counted : counts resolved = true
  · rw [if_pos counted] at unselected ⊢
    rw [if_pos counted]
    dsimp only
    rw [unselected]
    rfl
  · rw [if_neg counted, if_neg counted]

theorem addRule_of_not_selected (sheet : Sheet)
    (unselected : selected? catalog preference resolved = none) :
    ∃ next, addRule catalog preference sheet resolved = .ok next ∧ next.rows = sheet.rows := by
  refine ⟨_, addRule_eq_of_not_selected sheet unselected, ?_⟩
  split
  · rfl
  · rfl

/-- The row of a rule with a finite quantity. -/
theorem ofRule_total (inRange : resolved.env.InRange)
    (rounded : roundQuantity (.float resolved.quantity) = .ok (n : Int))
    (small : n < 8 * unitLimit) (package : Option Package) (product : Product) :
    ∃ row, ofRule package resolved product = .ok row ∧ row.Whole ∧ row.units = n := by
  obtain ⟨multiplier, known⟩ := Formula.multiplier_total inRange resolved.rule.hours
  obtain ⟨row, made, whole, holds⟩ := make_total small
    ⟨resolved.instanceId, resolved.packageId, (package.map (·.name)).getD ""⟩ product multiplier
    (some resolved.quantity) false
  refine ⟨{ row with ruleIds := [resolved.rule.id] }, ?_,
    whole_of_quantity (holds ▸ whole.quantity) whole.multiplier⟩
  unfold ofRule
  rw [rounded, known]
  show make _ product (.int n) (.float multiplier) _ false >>= _ = _
  rw [made]
  rfl

theorem addRule_total {sheet : Sheet} (within : Within sheet.rows.values n)
    (inRange : resolved.env.InRange)
    (finite : (selected? catalog preference resolved).isSome = true →
      resolved.quantity.isFinite = true)
    (small : n + demanded catalog preference resolved < 8 * unitLimit) :
    ∃ next, addRule catalog preference sheet resolved = .ok next ∧
      Within next.rows.values (n + demanded catalog preference resolved) := by
  cases selected : selected? catalog preference resolved with
  | none =>
    obtain ⟨next, added, same⟩ := addRule_of_not_selected sheet selected
    exact ⟨next, added, same ▸ within.mono (Nat.le_add_right _ _)⟩
  | some product =>
    rw [selected] at finite
    obtain ⟨k, rounded⟩ := roundQuantity_total (finite rfl)
    have own : demanded catalog preference resolved = k := by
      unfold demanded
      rw [selected, rounded]
      rfl
    rw [own] at small ⊢
    obtain ⟨row, made, whole, rfl⟩ := ofRule_total inRange rounded (by omega)
      (catalog.package? resolved.packageId) product
    obtain ⟨next, added, holds⟩ := Sheet.add_total within whole small
    refine ⟨next, ?_, holds⟩
    rw [addRule_eq_of_selected sheet selected, made]
    exact added

/-- The units of all rows that rules make. -/
def demand (catalog : Catalog) (preference : Preference) (resolution : Resolution) : Nat :=
  (resolution.rules.map (demanded catalog preference)).sum

/-- Rules with finite quantities make rows. -/
theorem build_total {resolution : Resolution}
    (inRange : ∀ resolved ∈ resolution.rules, resolved.env.InRange)
    (finite : ∀ resolved ∈ resolution.rules,
      (selected? catalog preference resolved).isSome = true → resolved.quantity.isFinite = true)
    (small : demand catalog preference resolution < 8 * unitLimit) :
    ∃ sheet, build catalog preference resolution = .ok sheet ∧
      Within sheet.rows.values (demand catalog preference resolution) := by
  have start : Within Sheet.empty.rows.values 0 := within_empty
  exact foldlM_within (p := fun s k => Within (Sheet.rows s).values k) start small
    fun resolved listed sheet k within less =>
      addRule_total within (inRange resolved listed) (finite resolved listed) less

/-- Where rows of rules are made, their quantities are finite. -/
theorem isFinite_of_build {resolution : Resolution} {sheet : Sheet}
    (built : build catalog preference resolution = .ok sheet) {resolved : ResolvedRule}
    (listed : resolved ∈ resolution.rules)
    (selected : (selected? catalog preference resolved).isSome = true) :
    resolved.quantity.isFinite = true := by
  obtain ⟨product, known⟩ := Option.isSome_iff_exists.1 selected
  obtain ⟨before, next, added⟩ := foldlM_step_ok built listed
  rw [addRule_eq_of_selected before known] at added
  obtain ⟨row, made, _⟩ := bind_ok_iff.1 added
  obtain ⟨n, rounded, _⟩ := bind_ok_iff.1 made
  by_contra infinite
  obtain ⟨fault, refused⟩ :=
    roundQuantity_error (Bool.eq_false_iff.2 infinite) (above_of_selected known)
  rw [refused] at rounded
  cases rounded

end LineItem

end WiringQuote
