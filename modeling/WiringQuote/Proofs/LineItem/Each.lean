import WiringQuote.Proofs.LineItem.Units

/-!
# What every row of a sheet has

A sheet is filled row by row, and a row with an id that is taken is absorbed. So every row has what each
row has when it is made, as long as a row that absorbs another keeps it.

* `build_each`: for rows of rules.
* `derive_each`: for protection rows.
-/

namespace WiringQuote

open Fallible

namespace LineItem

/-- A row that absorbs another has what both of them had. -/
def KeptByMerge (p : LineItem → Prop) : Prop :=
  ∀ target other row : LineItem, p target → p other → target.merge other = .ok row → p row

/-- Every row of the sheet has the property. -/
def Sheet.Each (p : LineItem → Prop) (sheet : Sheet) : Prop := sheet.rows.Each fun _ row => p row

variable {p : LineItem → Prop} {sheet : Sheet} (merges : KeptByMerge p)

include merges

theorem Sheet.Each.add {next : Sheet} {item : LineItem} (each : sheet.Each p) (own : p item)
    (added : sheet.add item = .ok next) : next.Each p := by
  rcases Sheet.add_ok added with ⟨_, rfl⟩ | ⟨existing, row, found, merged, rfl⟩
  · exact OrderedMap.Each.insert each own
  · exact OrderedMap.Each.insert each (merges _ _ _ (each _ _ found) own merged)

/-- Every row of rules has what each of them has when it is made. -/
theorem build_each {catalog : Catalog} {preference : Preference} {resolution : Resolution}
    (made : ∀ resolved ∈ resolution.rules, ∀ product row,
      selected? catalog preference resolved = some product →
      ofRule (catalog.package? resolved.packageId) resolved product = .ok row → p row)
    (built : build catalog preference resolution = .ok sheet) : sheet.Each p := by
  refine foldlM_induction built (OrderedMap.each_empty _) fun resolved listed before next each added => ?_
  cases selected : selected? catalog preference resolved with
  | none =>
    obtain ⟨same, left, rows⟩ := addRule_of_not_selected before selected
    rw [left] at added
    cases added
    unfold Sheet.Each
    rw [rows]
    exact each
  | some product =>
    rw [addRule_eq_of_selected before selected] at added
    obtain ⟨row, own, put⟩ := bind_ok_iff.1 added
    exact Sheet.Each.add merges each (made resolved listed product row selected own) put

end LineItem

namespace Protection

open LineItem

/-- Every protection row has what each of them has when it is made for a required device. -/
theorem derive_each {p : LineItem → Prop} {sheet : Sheet} (merges : KeptByMerge p)
    {catalog : Catalog} {preference : Preference} {items : List LineItem}
    (made : ∀ consumers devices, Consumers.ofItems items = .ok consumers →
      required consumers = .ok devices → ∀ device ∈ devices, ∀ product row,
      catalog.selectByQuality device.1 (Quality.chain [preference.globalQuality])
        preference.location = some product →
      make placement product device.2 (.float 1.0) none true = .ok row → p row)
    (derived : derive catalog preference items = .ok sheet) : sheet.Each p := by
  obtain ⟨consumers, devices, counted, listed, run⟩ := derive_ok_iff.1 derived
  refine foldlM_induction run (OrderedMap.each_empty _) fun device present before next each added => ?_
  unfold addDevice at added
  dsimp only at added
  split at added
  · cases added
    exact each
  · rename_i product chosen
    obtain ⟨row, own, put⟩ := bind_ok_iff.1 added
    exact Sheet.Each.add merges each
      (made consumers devices counted listed device present product row chosen own) put

end Protection

end WiringQuote
