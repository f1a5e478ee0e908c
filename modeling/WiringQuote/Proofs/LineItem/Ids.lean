import WiringQuote.Identifier
import WiringQuote.Proofs.LineItem.Each
import WiringQuote.Session.Write

/-!
# Ids of rows

A row has the id of its selected package, a dash and the id of a product. So whether the id of a row
starts with that of a selected package and a dash depends on how the ids of packages and products are
put together.

* `build_named`, `derive_named`: every row has an id of this form.
* `lineItemId_startsWith_iff`: when the id of a row starts with the id of another selected package.
* `Given.not_nested`: ids that are given out never start with each other.
* `Given.lineItemId_ne`: no row under such an id has the id of a protection row.
-/

namespace WiringQuote

open Fallible

/-! ## Rows are named -/

namespace LineItem

/-- The row has the id of its selected package and some product; a switched row has another product. -/
def Named (row : LineItem) : Prop := ∃ productId, row.id = lineItemId row.instanceId productId

theorem Keeps.named {before after : LineItem} (kept : Keeps before after) (named : before.Named) :
    after.Named := by
  unfold Named
  rw [kept.id, kept.instanceId]
  exact named

theorem make_named {place : Placement} {product : Product} {quantity multiplier : Number}
    {calculated : Option Float} {isProtection : Bool} {row : LineItem}
    (made : make place product quantity multiplier calculated isProtection = .ok row) :
    row.Named := by
  obtain ⟨_, _, _, rfl⟩ := make_ok made
  exact ⟨product.id, rfl⟩

theorem ofRule_named {package : Option Package} {resolved : ResolvedRule} {product : Product}
    {row : LineItem} (made : ofRule package resolved product = .ok row) : row.Named := by
  obtain ⟨id, instanceId, _⟩ := ofRule_ok made
  exact ⟨product.id, instanceId ▸ id⟩

/-- Every row of the sheet is named. -/
def Sheet.Named (sheet : Sheet) : Prop := sheet.rows.Each fun _ row => row.Named

theorem keptByMerge_named : KeptByMerge Named := fun _ _ _ named _ merged =>
  (merge_keeps merged).1.named named

/-- Rows of rules are named. -/
theorem build_named {catalog : Catalog} {preference : Preference} {resolution : Resolution}
    {sheet : Sheet} (built : build catalog preference resolution = .ok sheet) : sheet.Named :=
  build_each keptByMerge_named (fun _ _ _ _ _ made => ofRule_named made) built

end LineItem

/-- Protection rows are named. -/
theorem Protection.derive_named {catalog : Catalog} {preference : Preference}
    {items : List LineItem} {sheet : LineItem.Sheet}
    (derived : derive catalog preference items = .ok sheet) : sheet.Named :=
  derive_each LineItem.keptByMerge_named
    (fun _ _ _ _ _ _ _ _ _ made => LineItem.make_named made) derived

/-! ## Ids that start with others -/

theorem toList_lineItemId (instanceId productId : String) :
    (lineItemId instanceId productId).toList = instanceId.toList ++ '-' :: productId.toList := by
  unfold lineItemId
  simp

/-- Rows of one selected package share an id only if they share the product. -/
theorem lineItemId_right_inj {instanceId p q : String} :
    lineItemId instanceId p = lineItemId instanceId q ↔ p = q := by
  refine ⟨fun same => ?_, fun same => congrArg _ same⟩
  have lists := congrArg String.toList same
  rw [toList_lineItemId, toList_lineItemId, List.append_cancel_left_eq, List.cons.injEq] at lists
  exact String.toList_inj.1 lists.2

/-- A row id starts with that of its selected package. -/
theorem lineItemId_startsWith (instanceId productId : String) :
    (lineItemId instanceId productId).startsWith (instanceId ++ "-") = true := by
  rw [String.startsWith_string_iff, toList_lineItemId, String.toList_append]
  exact ⟨productId.toList, by simp⟩

/-- One of the ids starts with the other and a dash. For the second, the id of the row's product has to
go on as the first one does. -/
def Nested (i j productId : String) : Prop :=
  j.startsWith (i ++ "-") = true ∨ ∃ q, i = lineItemId j q ∧ productId.startsWith (q ++ "-") = true

/-- Lists that are followed by one separator and begin one list. -/
theorem prefix_separated_iff {α : Type} {dash : α} {I J P : List α} (different : I ≠ J) :
    I ++ [dash] <+: J ++ dash :: P ↔
      I ++ [dash] <+: J ∨ ∃ Q, I = J ++ dash :: Q ∧ Q ++ [dash] <+: P := by
  have split : J ++ dash :: P = (J ++ [dash]) ++ P := by simp
  constructor
  · intro begins
    rcases List.prefix_or_prefix_of_prefix begins (split ▸ List.prefix_append _ P) with short | long
    · rcases List.prefix_concat_iff.1 short with same | inside
      · exact absurd (List.append_cancel_right same) different
      · exact .inl inside
    · rcases List.prefix_concat_iff.1 long with same | inside
      · exact absurd (List.append_cancel_right same).symm different
      · obtain ⟨Q, rfl⟩ := inside
        rw [split, List.append_assoc, List.prefix_append_right_inj] at begins
        exact .inr ⟨Q, by simp, begins⟩
  · rintro (inside | ⟨Q, rfl, begins⟩)
    · exact inside.trans (List.prefix_append _ _)
    · rw [split]
      have same : J ++ dash :: Q ++ [dash] = (J ++ [dash]) ++ (Q ++ [dash]) := by simp
      rw [same, List.prefix_append_right_inj]
      exact begins

/-- The id of a row of one selected package starts with the id of another exactly if the two are
nested. -/
theorem lineItemId_startsWith_iff {i j : String} (different : i ≠ j) (productId : String) :
    (lineItemId j productId).startsWith (i ++ "-") = true ↔ Nested i j productId := by
  have lists : i.toList ≠ j.toList := fun same => different (String.toList_inj.1 same)
  have dash : "-".toList = ['-'] := rfl
  unfold Nested
  simp only [String.startsWith_string_iff, String.toList_append, toList_lineItemId, dash]
  rw [prefix_separated_iff lists]
  refine or_congr Iff.rfl ⟨?_, ?_⟩
  · rintro ⟨Q, same, begins⟩
    refine ⟨String.ofList Q, String.toList_inj.1 ?_, by simpa using begins⟩
    rw [toList_lineItemId, same, String.toList_ofList]
  · rintro ⟨q, rfl, begins⟩
    exact ⟨q.toList, toList_lineItemId j q, begins⟩

/-! ## Ids that are given out -/

/-- The id is given out for a package with a whole number for its id. -/
def Given (id : String) : Prop :=
  ∃ n tag, id = Session.instanceId (.int n) tag ∧ '-' ∉ tag.toList

/-- The dashes of an id, but for one that it starts with. -/
def dashes (id : String) : Nat := id.toList.tail.count '-'

theorem dash_not_mem_toDigits {b : Nat} (base : 1 < b) (n : Nat) : '-' ∉ Nat.toDigits b n := by
  induction n using Nat.strongRecOn with
  | ind n ih =>
    rw [Nat.toDigits_eq_if base]
    split
    · simp
    · rename_i large
      intro listed
      rcases List.mem_append.1 listed with front | last
      · exact ih (n / b) (Nat.div_lt_self (by omega) base) front
      · simp at last

/-- No tag that is given out has a dash. -/
theorem dash_not_mem_tag (number : Nat) : '-' ∉ (Identifier.tag number).toList := by
  unfold Identifier.tag Text.hex
  rw [String.toList_ofList]
  intro listed
  rcases List.mem_append.1 listed with padding | digits
  · exact absurd (List.eq_of_mem_replicate padding) (by decide)
  · exact dash_not_mem_toDigits (by decide) number digits

/-- A whole number starts with a digit or a dash, and has no other dash. -/
theorem intText_split (n : Int) : ∃ c digits, (Decimal.intText n).toList = c :: digits ∧
    (c = '-' ∨ c.isDigit = true) ∧ '-' ∉ digits := by
  unfold Decimal.intText Decimal.natText
  split
  · refine ⟨'-', Nat.toDigits 10 n.natAbs, by simp, .inl rfl, ?_⟩
    exact dash_not_mem_toDigits (by decide) _
  · obtain ⟨c, digits, split⟩ := List.exists_cons_of_ne_nil (Nat.toDigits_ne_nil (n := n.natAbs) (b := 10))
    have first : c ∈ Nat.toDigits 10 n.natAbs := by simp [split]
    refine ⟨c, digits, by simp [split],
      .inr (Nat.isDigit_of_mem_toDigits (by decide) (by decide) first), fun listed => ?_⟩
    refine dash_not_mem_toDigits (b := 10) (by decide) n.natAbs ?_
    rw [split]
    exact List.mem_cons_of_mem c listed

/-- An id that is given out starts with a digit or a dash. -/
theorem Given.head {id : String} (given : Given id) :
    ∃ c rest, id.toList = c :: rest ∧ (c = '-' ∨ c.isDigit = true) := by
  obtain ⟨n, tag, rfl, _⟩ := given
  obtain ⟨c, digits, split, first, _⟩ := intText_split n
  refine ⟨c, digits ++ '-' :: tag.toList, ?_, first⟩
  show (Decimal.intText n ++ "-" ++ tag).toList = _
  simp [split]

/-- No row of a package with such an id has the id of a protection row. -/
theorem Given.lineItemId_ne {id : String} (given : Given id) (p q : String) :
    lineItemId id p ≠ lineItemId Protection.instanceId q := by
  obtain ⟨c, rest, split, first⟩ := given.head
  intro same
  have lists := congrArg String.toList same
  have letters : Protection.instanceId.toList = 's' :: "chutzorgane".toList := by decide
  rw [toList_lineItemId, toList_lineItemId, split, letters] at lists
  obtain ⟨rfl, _⟩ := List.cons.inj lists
  revert first
  decide

/-- An id that is given out has one dash, between the package and the tag. -/
theorem Given.dashes {id : String} (given : Given id) : id.toList ≠ [] ∧ dashes id = 1 := by
  obtain ⟨n, tag, rfl, free⟩ := given
  obtain ⟨c, digits, split, _, none⟩ := intText_split n
  have parts : (Session.instanceId (.int n) tag).toList = c :: digits ++ '-' :: tag.toList := by
    show (Decimal.intText n ++ "-" ++ tag).toList = _
    simp [split]
  refine ⟨by simp [parts], ?_⟩
  unfold WiringQuote.dashes
  rw [parts, List.cons_append, List.tail_cons, List.count_append, List.count_cons_self,
    List.count_eq_zero.2 none, List.count_eq_zero.2 free]

/-- An id that another starts with, a dash after it, has fewer dashes. -/
theorem dashes_lt {i j : String} (some : i.toList ≠ []) (begins : j.startsWith (i ++ "-") = true) :
    dashes i < dashes j := by
  rw [String.startsWith_string_iff, String.toList_append] at begins
  obtain ⟨rest, same⟩ := begins
  obtain ⟨c, others, split⟩ := List.exists_cons_of_ne_nil some
  unfold dashes
  rw [← same, split]
  have dash : "-".toList = ['-'] := rfl
  simp only [List.cons_append, List.tail_cons, List.count_append, dash, List.count_singleton_self]
  omega

/-- Ids that are given out never start with each other. -/
theorem Given.not_nested {i j : String} (first : Given i) (second : Given j) (productId : String) :
    ¬ Nested i j productId := by
  rintro (begins | ⟨q, same, _⟩)
  · have fewer := dashes_lt first.dashes.1 begins
    rw [first.dashes.2, second.dashes.2] at fewer
    omega
  · have begins : i.startsWith (j ++ "-") = true := by
      rw [same]
      exact lineItemId_startsWith j q
    have fewer := dashes_lt second.dashes.1 begins
    rw [first.dashes.2, second.dashes.2] at fewer
    omega

end WiringQuote
