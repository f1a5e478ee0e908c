import Mathlib.Data.List.Chain
import WiringQuote.Proofs.Quantity.Reachability

/-!
# Breaking the cycles of a reference graph

A cycle is a closed path that passes no group twice. The references found are exactly those that lie on
such a path, so that without them the graph has no cycle left and no other reference is lost.

* `leads_iff_exists_path`: what leads somewhere leads there without passing a group twice.
* `mem_cyclicEdges_iff_onCycle`: a reference is found exactly if it lies on a cycle.
* `not_transGen_kept`: the references that are kept have no cycle.
* `cyclicEdges_exact`: these together, with the loop that finds the references.
-/

namespace WiringQuote.ReferenceGraph

/-- A path of references from `a` to `b` that passes through these groups, none of them twice. -/
structure Path (edges : List ReferenceEdge) (a : String) (groups : List String) (b : String) :
    Prop where
  distinct : groups.Nodup
  starts : groups.head? = some a
  ends : groups.getLast? = some b
  linked : groups.IsChain fun x y => (x, y) ∈ edges

/-- The reference closes a path from its target back to its source. -/
def OnCycle (edges : List ReferenceEdge) (a b : String) : Prop :=
  (a, b) ∈ edges ∧ ∃ groups, Path edges b groups a

/-- The references that are not cyclic. -/
def Kept (edges : List ReferenceEdge) (a b : String) : Prop :=
  (a, b) ∈ edges ∧ (a, b) ∉ cyclicEdges edges

variable {edges : List ReferenceEdge}

/-! ## Paths -/

/-- A path may be entered at any of its groups. -/
theorem Path.enter {a b c : String} {groups : List String} (path : Path edges a groups b)
    (passed : c ∈ groups) : ∃ rest, Path edges c rest b := by
  obtain ⟨before, after, rfl⟩ := List.append_of_mem passed
  have later : (c :: after).Sublist (before ++ c :: after) := List.sublist_append_right ..
  refine ⟨c :: after, path.distinct.sublist later, rfl, ?_, path.linked.right_of_append⟩
  rw [← path.ends, List.getLast?_append_of_ne_nil _ (List.cons_ne_nil c after)]

/-- A reference to the start of a path prolongs it, unless the path passes its source already. -/
theorem Path.prolong {a b c : String} {groups : List String} (path : Path edges b groups c)
    (edge : (a, b) ∈ edges) (new : a ∉ groups) : Path edges a (a :: groups) c where
  distinct := List.nodup_cons.2 ⟨new, path.distinct⟩
  starts := rfl
  ends := by
    obtain ⟨rest, rfl⟩ := List.head?_eq_some_iff.1 path.starts
    exact path.ends
  linked := by
    obtain ⟨rest, rfl⟩ := List.head?_eq_some_iff.1 path.starts
    exact .cons_cons edge path.linked

theorem Path.leads {a b : String} {groups : List String} (path : Path edges a groups b) :
    Leads edges a b := by
  obtain ⟨rest, rfl⟩ := List.head?_eq_some_iff.1 path.starts
  have last := path.ends
  rw [List.getLast?_eq_some_getLast (List.cons_ne_nil a rest)] at last
  exact List.relationReflTransGen_of_exists_isChain_cons rest path.linked (Option.some.inj last)

/-- What leads somewhere leads there without passing a group twice. -/
theorem leads_iff_exists_path {a b : String} : Leads edges a b ↔ ∃ groups, Path edges a groups b := by
  constructor
  · intro leads
    -- From the end of the chain: a group that the path passes later on is where the path is entered.
    induction leads using Relation.ReflTransGen.head_induction_on with
    | refl => exact ⟨[b], List.pairwise_singleton _ b, rfl, rfl, .singleton b⟩
    | @head x y edge _ ih =>
      obtain ⟨groups, path⟩ := ih
      by_cases passed : x ∈ groups
      · exact path.enter passed
      · exact ⟨x :: groups, path.prolong edge passed⟩
  · rintro ⟨groups, path⟩
    exact path.leads

/-! ## Cycles -/

/-- A reference is found exactly if it lies on a cycle. -/
theorem mem_cyclicEdges_iff_onCycle {a b : String} :
    (a, b) ∈ cyclicEdges edges ↔ OnCycle edges a b := by
  rw [mem_cyclicEdges_iff, leads_iff_exists_path, OnCycle]

theorem kept_iff {a b : String} : Kept edges a b ↔ (a, b) ∈ edges ∧ ¬ OnCycle edges a b := by
  rw [Kept, mem_cyclicEdges_iff_onCycle]

/-- The references that are kept have no cycle. -/
theorem not_transGen_kept (a : String) : ¬ Relation.TransGen (Kept edges) a a := by
  intro cycle
  -- The first reference of a cycle leads back to its own source, so it is not one that is kept.
  obtain ⟨b, kept, back⟩ := Relation.TransGen.head'_iff.1 cycle
  have returns : Leads edges b a :=
    Relation.ReflTransGen.mono (fun _ _ kept => kept.1) _ _ back
  exact kept.2 (mem_cyclicEdges_iff.2 ⟨kept.1, returns⟩)

/-- The search from a group comes to its end in whichever order the references are followed, and what
it has seen then does not depend on the order. The references found are those whose target leads back
to their source, and so the ones on a cycle; all others are kept, and they have no cycle. -/
theorem cyclicEdges_exact (edges : List ReferenceEdge) :
    (∀ (start : String) (n : Nat) (s : Search), Turns edges n ⟨[start], []⟩ s →
      n ≤ edges.length + 1 ∧ (s.stack ≠ [] → ∃ next, Turn edges s next) ∧
      (s.stack = [] → ∀ group, group ∈ s.seen ↔ group ∈ reachable edges start)) ∧
    (cyclicEdges edges).Sublist edges ∧
    (∀ a b, (a, b) ∈ cyclicEdges edges ↔ (a, b) ∈ edges ∧ Leads edges b a) ∧
    (∀ a b, (a, b) ∈ cyclicEdges edges ↔ OnCycle edges a b) ∧
    (∀ a b, Kept edges a b ↔ (a, b) ∈ edges ∧ ¬ OnCycle edges a b) ∧
    (∀ a, ¬ Relation.TransGen (Kept edges) a a) := by
  refine ⟨fun start n s turns => ⟨?_, exists_turn, fun finished group => ?_⟩, List.filter_sublist,
    fun _ _ => mem_cyclicEdges_iff, fun _ _ => mem_cyclicEdges_iff_onCycle, fun _ _ => kept_iff,
    not_transGen_kept⟩
  · have spent : s.size edges + n = Search.size edges ⟨[start], []⟩ := turns.size
    have initial : Search.size edges ⟨[start], []⟩ = 1 + edges.length := by
      simp [Search.size, pending]
    omega
  · obtain ⟨stack, seen⟩ := s
    obtain rfl : stack = [] := finished
    rw [mem_reachable_iff]
    exact ((explores_start edges start).turns turns).mem_seen_iff

/-- Two cycles that share `b`, a group that refers to itself, and references into and out of cycles. -/
def sharedGroup : List ReferenceEdge :=
  [("a", "b"), ("b", "c"), ("c", "b"), ("b", "d"), ("d", "b"), ("e", "e"), ("c", "f")]

theorem cyclicEdges_sharedGroup :
    Turns sharedGroup 1 ⟨["f"], []⟩ ⟨[], ["f"]⟩ ∧
      (∀ group, group ∈ ["f"] ↔ group ∈ reachable sharedGroup "f") ∧
      cyclicEdges sharedGroup = [("b", "c"), ("c", "b"), ("b", "d"), ("d", "b"), ("e", "e")] ∧
      OnCycle sharedGroup "b" "d" ∧ OnCycle sharedGroup "e" "e" ∧ ¬ OnCycle sharedGroup "a" "b" := by
  have turns : Turns sharedGroup 1 ⟨["f"], []⟩ ⟨[], ["f"]⟩ :=
    .turn (.first List.not_mem_nil (List.Perm.refl (successors sharedGroup "f"))) .done
  obtain ⟨search, -, -, cyclic, kept, -⟩ := cyclicEdges_exact sharedGroup
  exact ⟨turns, (search "f" 1 _ turns).2.2 rfl, by decide +kernel,
    (cyclic "b" "d").1 (by decide +kernel), (cyclic "e" "e").1 (by decide +kernel),
    ((kept "a" "b").1 ⟨by decide, by decide +kernel⟩).2⟩

end WiringQuote.ReferenceGraph
