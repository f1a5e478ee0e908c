import WiringQuote.Proofs.Quantity.TwoPass

/-!
# Rules without references

A rule that refers to no group needs no second pass. Its final quantity is the direct one unless the
second pass takes the entries of another rule: where some selected rule refers to a group, formulas
are kept by rule id, and rules with one id share the entries of the first of them.

* `completes_unreferenced`: where no selected rule refers to a group, both passes agree.
* `completes_firstNamed`: where one does, a rule adds up the entries of the first rule with its id.
* `quantity_eq_direct_iff`: so a rule without references keeps its direct quantity exactly if one of
  the two comes down to it, and always if the rules with its id have its entries.
* `sharedId_differs`: a catalog in which two rules share an id and one of them does not.
-/

namespace WiringQuote.Resolution

open Fallible Formula ReferenceGraph

/-! ## The entries of the second pass -/

section Entries

variable {catalog : Catalog} {instances : List Instance} {globals : Environment} {r : Resolution}

/-- The first of the rules with an id. -/
def firstNamed (rules : List ResolvedRule) (id : Int) : Option ResolvedRule :=
  rules.find? fun x => x.rule.id = id

/-- A group from which references lead to the group of a rule. -/
def LeadsBack (rules : List ResolvedRule) (x : ResolvedRule) (group : String) : Prop :=
  Relation.ReflTransGen (Refers (rules.map (·.rule))) group x.rule.group

/-- Going through the entries of a rule from the base and with the parameters of another one yields a
quantity. -/
def AddsUp (r : Resolution) (x entriesOf : ResolvedRule) (q : Float) : Prop :=
  Adds x.env (fun group => (r.referenceTotals.get? group).getD 0.0) (LeadsBack r.rules entriesOf)
    x.rule.base entriesOf.rule.material q

/-- The resolved rules are the selected ones, in their order. -/
theorem occurrences_eq_rules (resolved : resolve catalog instances globals = .ok r) :
    occurrences catalog instances globals = r.rules.map (·.toOccurrence) := by
  obtain ⟨direct, first, _, second, _⟩ := resolve_passes resolved
  rw [(directQuantities_ok first).1]
  exact map_eq_map_of_pairs (second.imp fun _ _ one => one.1.symm)

/-- Both quantities of a resolved rule, each from the formula of its pass. -/
theorem quantities_of_resolved (resolved : resolve catalog instances globals = .ok r)
    {x : ResolvedRule} (listed : x ∈ r.rules) :
    Formula.quantity x.rule.base x.rule.material x.env none = .ok x.direct ∧
    Formula.quantity x.rule.base
      (secondFormula (occurrences catalog instances globals)
        (referenceEdges (occurrences catalog instances globals))
        (sorted (cyclicEdges (referenceEdges (occurrences catalog instances globals)))) x.rule)
      x.env (some r.referenceTotals) = .ok x.quantity := by
  obtain ⟨direct, first, _, second, _⟩ := resolve_passes resolved
  obtain ⟨pair, inDirect, same, directOf, finalized⟩ := exists_mem_of_pairs second listed
  have summed := (directQuantities_ok first).2 pair inDirect
  rw [← same, ← directOf] at summed
  exact ⟨summed, finalized⟩

/-- There are edges exactly if some selected rule refers to a group. -/
theorem referenceEdges_isEmpty_iff (occurrences : List Occurrence) :
    (referenceEdges occurrences).isEmpty = true ↔
      ∀ occurrence ∈ occurrences, Unreferenced occurrence.rule.material := by
  rw [List.isEmpty_iff, List.eq_nil_iff_forall_not_mem]
  constructor
  · intro none occurrence present group factor refers
    refine none (occurrence.rule.group, group) (mem_referenceEdges_iff.2 ?_)
    exact ⟨occurrence.rule, List.mem_map_of_mem present, rfl, factor, refers⟩
  · rintro unreferenced ⟨g, h⟩ edge
    obtain ⟨rule, present, _, factor, refers⟩ := mem_referenceEdges_iff.1 edge
    obtain ⟨occurrence, selected, rfl⟩ := List.mem_map.1 present
    exact unreferenced occurrence selected h factor refers

/-- Where no selected rule refers to a group, both passes agree. -/
theorem completes_unreferenced (resolved : resolve catalog instances globals = .ok r)
    (unreferenced : ∀ y ∈ r.rules, Unreferenced y.rule.material) {x : ResolvedRule}
    (listed : x ∈ r.rules) : x.quantity = x.direct := by
  obtain ⟨summed, finalized⟩ := quantities_of_resolved resolved listed
  have noEdges : (referenceEdges (occurrences catalog instances globals)).isEmpty = true := by
    rw [referenceEdges_isEmpty_iff, occurrences_eq_rules resolved]
    intro occurrence selected
    obtain ⟨y, listedY, rfl⟩ := List.mem_map.1 selected
    exact unreferenced y listedY
  unfold secondFormula at finalized
  rw [if_pos noEdges, quantity_of_unreferenced (unreferenced x listed), summed] at finalized
  exact (Except.ok.inj finalized).symm

/-- Where some selected rule refers to a group, the second pass adds up the entries of the first rule
with the id. -/
theorem completes_firstNamed (resolved : resolve catalog instances globals = .ok r)
    (referenced : ¬ ∀ y ∈ r.rules, Unreferenced y.rule.material) {x : ResolvedRule}
    (listed : x ∈ r.rules) :
    ∃ first, firstNamed r.rules x.rule.id = some first ∧ AddsUp r x first x.quantity := by
  obtain ⟨_, finalized⟩ := quantities_of_resolved resolved listed
  have selected := occurrences_eq_rules resolved
  have edges : ¬ (referenceEdges (occurrences catalog instances globals)).isEmpty = true := by
    rw [referenceEdges_isEmpty_iff, selected]
    exact fun none => referenced fun y listedY => none _ (List.mem_map_of_mem listedY)
  have named : (firstNamed r.rules x.rule.id).isSome = true := by
    unfold firstNamed
    rw [List.find?_isSome]
    exact ⟨x, listed, by simp⟩
  obtain ⟨first, found⟩ := Option.isSome_iff_exists.1 named
  have inRules : first ∈ r.rules := List.mem_of_find?_eq_some found
  have present : first.toOccurrence ∈ occurrences catalog instances globals := by
    rw [selected]
    exact List.mem_map_of_mem inRules
  have foundOccurrence : (occurrences catalog instances globals).find?
      (fun occurrence => occurrence.rule.id = x.rule.id) = some first.toOccurrence := by
    rw [selected, List.find?_map]
    exact congrArg (Option.map _) found
  unfold secondFormula at finalized
  rw [if_neg edges, foundOccurrence] at finalized
  refine ⟨first, found, ?_⟩
  have added := adds_of_kept (keeps_withoutCycles present) finalized
  rw [selected, List.map_map] at added
  exact added

end Entries

/-! ## Rules without references -/

/-- A rule without references keeps its direct quantity exactly if no selected rule refers to a group or
the entries of the first rule with its id come down to it. So it does if those are its own. -/
theorem quantity_eq_direct_iff {catalog : Catalog} {instances : List Instance}
    {globals : Environment} {r : Resolution} (resolved : resolve catalog instances globals = .ok r)
    {x : ResolvedRule} (listed : x ∈ r.rules) (own : Unreferenced x.rule.material) :
    (x.quantity = x.direct ↔
      (∀ y ∈ r.rules, Unreferenced y.rule.material) ∨
      ∃ first, firstNamed r.rules x.rule.id = some first ∧ AddsUp r x first x.direct) ∧
    ((∀ y ∈ r.rules, y.rule.id = x.rule.id → y.rule.material = x.rule.material) →
      x.quantity = x.direct) := by
  have summed := (quantities_of_resolved resolved listed).1
  by_cases unreferenced : ∀ y ∈ r.rules, Unreferenced y.rule.material
  · have same := completes_unreferenced resolved unreferenced listed
    exact ⟨⟨fun _ => .inl unreferenced, fun _ => same⟩, fun _ => same⟩
  · obtain ⟨first, found, added⟩ := completes_firstNamed resolved unreferenced listed
    have sameIf : AddsUp r x first x.direct → x.quantity = x.direct := fun again =>
      added.unique again
    refine ⟨⟨fun same => .inr ⟨first, found, same ▸ added⟩, ?_⟩, fun sameEntries => sameIf ?_⟩
    · rintro (none | ⟨other, foundOther, again⟩)
      · exact absurd none unreferenced
      · cases found.symm.trans foundOther
        exact sameIf again
    · have inRules : first ∈ r.rules := List.mem_of_find?_eq_some found
      have sameId : first.rule.id = x.rule.id := by simpa using List.find?_some found
      unfold AddsUp
      rw [sameEntries first inRules sameId]
      exact adds_of_unreferenced own summed

/-! ## Two rules with one id -/

/-- A light whose quantity follows that of the sockets, and the sockets. -/
def lightAndSocket (socketId : Int) : Catalog.Rows where
  packages := [.obj [("id", .int 1), ("name", .str "Room")]]
  items := [
    .obj [("id", .int 1), ("package_id", .int 1), ("produkt_gruppe_id", .str "light"),
      ("quantity_base", .int 1),
      ("multipliers_material", .obj [("type", .str "group_ref"), ("group_id", .str "socket"),
        ("factor", .float 1.0)])],
    .obj [("id", .int socketId), ("package_id", .int 1), ("produkt_gruppe_id", .str "socket"),
      ("quantity_base", .int 2)]]
  products := [.obj [("product_id", .str "SKT"), ("name", .str "Socket")]]
  groups := []
  parameters := []
  links := []

/-- The room, once. -/
def oneRoom : List Instance := [⟨"1-00000001", .num (.int 1), .empty⟩]

/-- The id of a rule, how many entries it has, and its two quantities. -/
def figures (x : ResolvedRule) : Int × Nat × Float × Float :=
  (x.rule.id, x.rule.material.length, x.direct, x.quantity)

/-- The figures of the rules of the room. -/
def roomFigures (socketId : Int) : Option (List (Int × Nat × Float × Float)) :=
  (Catalog.ofRows Json.usualDepth (lightAndSocket socketId)).toOption.bind fun catalog =>
    (resolve catalog oneRoom .empty).toOption.map fun r => r.rules.map figures

theorem resolved_of_figures {socketId : Int} {listed : List (Int × Nat × Float × Float)}
    (shown : roomFigures socketId = some listed) :
    ∃ catalog r, Catalog.ofRows Json.usualDepth (lightAndSocket socketId) = .ok catalog ∧
      resolve catalog oneRoom .empty = .ok r ∧ r.rules.map figures = listed := by
  obtain ⟨catalog, loaded, rest⟩ := Option.bind_eq_some_iff.1 shown
  obtain ⟨r, resolved, same⟩ := toOption_map_eq_some_iff.1 rest
  exact ⟨catalog, r, toOption_eq_some_iff.1 loaded, resolved, same⟩

theorem material_of_figures {x : ResolvedRule} {id : Int} {direct quantity : Float}
    (shown : figures x = (id, 0, direct, quantity)) : x.rule.material = [] := by
  have none : x.rule.material.length = 0 := congrArg (·.2.1) shown
  exact List.eq_nil_of_length_eq_zero none

theorem sharedId_figures :
    roomFigures 1 = some [(1, 1, 1.0, 3.0), (1, 0, 2.0, 4.0)] := by decide +kernel

/-- A socket that refers to nothing, but has the id of the light, gets the reference of the light. -/
theorem sharedId_differs :
    ∃ catalog r, Catalog.ofRows Json.usualDepth (lightAndSocket 1) = .ok catalog ∧
      resolve catalog oneRoom .empty = .ok r ∧
      ∃ x ∈ r.rules, Unreferenced x.rule.material ∧ x.direct = 2.0 ∧ x.quantity = 4.0 ∧
        x.quantity ≠ x.direct := by
  obtain ⟨catalog, r, loaded, resolved, rules⟩ := resolved_of_figures sharedId_figures
  have second : ((1, 0, 2.0, 4.0) : Int × Nat × Float × Float) ∈ r.rules.map figures := by
    rw [rules]
    simp
  obtain ⟨x, listed, shown⟩ := List.mem_map.1 second
  have direct : x.direct = 2.0 := congrArg (·.2.2.1) shown
  have quantity : x.quantity = 4.0 := congrArg (·.2.2.2) shown
  refine ⟨catalog, r, loaded, resolved, x, listed, ?_, direct, quantity, ?_⟩
  · rw [material_of_figures shown]
    exact fun _ _ => List.not_mem_nil
  · rw [direct, quantity]
    decide +kernel

theorem ownIds_figures :
    roomFigures 2 = some [(1, 1, 1.0, 3.0), (2, 0, 2.0, 2.0)] := by decide +kernel

/-- Under an id of its own the socket keeps its quantity beside the light that refers to it. -/
theorem ownIds_kept :
    ∃ catalog r, resolve catalog oneRoom .empty = .ok r ∧ r.rules.map (·.rule.id) = [1, 2] ∧
      ∃ x ∈ r.rules, x.rule.id = 2 ∧ Unreferenced x.rule.material ∧ x.quantity = x.direct := by
  obtain ⟨catalog, r, _, resolved, rules⟩ := resolved_of_figures ownIds_figures
  have ids : r.rules.map (·.rule.id) = [1, 2] := by
    simpa [figures, Function.comp_def] using congrArg (List.map (·.1)) rules
  have second : ((2, 0, 2.0, 2.0) : Int × Nat × Float × Float) ∈ r.rules.map figures := by
    rw [rules]
    simp
  obtain ⟨x, listed, shown⟩ := List.mem_map.1 second
  have id : x.rule.id = 2 := congrArg (·.1) shown
  have own : Unreferenced x.rule.material := by
    rw [material_of_figures shown]
    exact fun _ _ => List.not_mem_nil
  refine ⟨catalog, r, resolved, ids, x, listed, id, own, ?_⟩
  refine (quantity_eq_direct_iff resolved listed own).2 fun y listedY sameId => ?_
  -- The ids are distinct, so the rule with the id of the socket is the socket.
  have distinct : (r.rules.map (·.rule.id)).Nodup := by
    rw [ids]
    decide
  rw [List.inj_on_of_nodup_map distinct listedY listed sameId]

end WiringQuote.Resolution
