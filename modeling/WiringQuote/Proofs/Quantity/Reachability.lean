import Mathlib.Data.List.Sort
import Mathlib.Logic.Relation
import WiringQuote.Proofs.Grouping
import WiringQuote.Quantity.ReferenceGraph

/-!
# Reachability in reference graphs

The search of a reference graph finds what the references lead to, and nothing else. It is a loop, and
the order in which the groups that a new group refers to are stacked does not matter to what it finds.

* `Turns.size`: every turn of the loop uses up one stacked group or one reference.
* `Explores.turns`: what every turn keeps, a run of any length keeps.
* `mem_reachable_iff`: a group is found from `start` exactly if a chain of references leads from
  `start` to it.
* `mem_cyclicEdges_iff`: a reference is kept as cyclic exactly if its target leads back to its
  source.
* `sorted_congr`: the cyclic references are reported in an order of their own.
-/

namespace WiringQuote.ReferenceGraph

/-- `Leads edges a b`: a chain of references, possibly of none, leads from `a` to `b`. -/
def Leads (edges : List ReferenceEdge) : String → String → Prop :=
  Relation.ReflTransGen fun a b => (a, b) ∈ edges

theorem mem_successors_iff {edges : List ReferenceEdge} {a b : String} :
    b ∈ successors edges a ↔ (a, b) ∈ edges := by
  unfold successors
  simp only [List.mem_map, List.mem_filter, decide_eq_true_eq]
  constructor
  · rintro ⟨edge, ⟨present, rfl⟩, rfl⟩
    exact present
  · intro present
    exact ⟨(a, b), ⟨present, rfl⟩, rfl⟩

/-! ## The loop -/

/-- The search between two turns of its loop. -/
structure Search where
  stack : List String
  seen : List String

/-- One turn takes the top group off the stack.

* `again`: a group that was seen before is dropped.
* `first`: a new one is marked, and the groups that it refers to are stacked in any order. -/
inductive Turn (edges : List ReferenceEdge) : Search → Search → Prop
  | again {top : String} {rest seen : List String} :
      top ∈ seen → Turn edges ⟨top :: rest, seen⟩ ⟨rest, seen⟩
  | first {top : String} {next rest seen : List String} :
      top ∉ seen → next.Perm (successors edges top) →
      Turn edges ⟨top :: rest, seen⟩ ⟨next ++ rest, top :: seen⟩

/-- So many turns, one after the other. -/
inductive Turns (edges : List ReferenceEdge) : Nat → Search → Search → Prop
  | done {s : Search} : Turns edges 0 s s
  | turn {n : Nat} {s t u : Search} : Turn edges s t → Turns edges n t u → Turns edges (n + 1) s u

variable {edges : List ReferenceEdge}

/-- As long as a group is stacked, there is a turn. -/
theorem exists_turn {s : Search} (stacked : s.stack ≠ []) : ∃ t, Turn edges s t := by
  obtain ⟨stack, seen⟩ := s
  obtain ⟨top, rest, rfl⟩ := List.exists_cons_of_ne_nil stacked
  by_cases known : top ∈ seen
  · exact ⟨_, .again known⟩
  · exact ⟨_, .first known (.refl _)⟩

/-! ## Termination -/

/-- The stacked groups and the references that were not followed yet. -/
def Search.size (edges : List ReferenceEdge) (s : Search) : Nat :=
  s.stack.length + pending edges s.seen

theorem Turn.size {s t : Search} (turn : Turn edges s t) : t.size edges + 1 = s.size edges := by
  cases turn with
  | again => simp only [Search.size, List.length_cons]; omega
  | first unseen order =>
    have moved := @successors_length_add_pending edges _ _ unseen
    simp only [Search.size, List.length_append, List.length_cons, order.length_eq]
    omega

/-- Every turn uses up one stacked group or one reference. -/
theorem Turns.size {n : Nat} {s t : Search} (turns : Turns edges n s t) :
    t.size edges + n = s.size edges := by
  induction turns with
  | done => rfl
  | turn one _ ih => rw [← one.size, ← ih, Nat.add_assoc]

/-! ## What a run finds -/

/-- A search from `start`: nothing is seen or stacked that `start` does not lead to, and the references
of seen groups have been followed or are stacked. -/
structure Explores (edges : List ReferenceEdge) (start : String) (s : Search) : Prop where
  begins : start ∈ s.seen ∨ start ∈ s.stack
  sound : ∀ group, group ∈ s.seen ∨ group ∈ s.stack → Leads edges start group
  frontier : ∀ a b, a ∈ s.seen → (a, b) ∈ edges → b ∈ s.seen ∨ b ∈ s.stack

theorem explores_start (edges : List ReferenceEdge) (start : String) :
    Explores edges start ⟨[start], []⟩ where
  begins := .inr List.mem_cons_self
  sound _ known := by
    rcases known with seen | stacked
    · exact absurd seen List.not_mem_nil
    · rw [List.mem_singleton.1 stacked]
      exact .refl
  frontier _ _ seen := absurd seen List.not_mem_nil

variable {start : String}

theorem Explores.turn {s t : Search} (explores : Explores edges start s) (turn : Turn edges s t) :
    Explores edges start t := by
  -- What was seen or stacked stays so: the top group is seen, and all others are left in place.
  have stays : ∀ group, group ∈ s.seen ∨ group ∈ s.stack → group ∈ t.seen ∨ group ∈ t.stack := by
    intro group known
    cases turn with
    | again known => grind
    | first => grind
  refine ⟨stays _ explores.begins, fun group known => ?_, fun a b seenA edge => ?_⟩
  · cases turn with
    | again => exact explores.sound group (known.imp_right (List.mem_cons_of_mem _))
    | @first top next rest seen _ order =>
      have fromTop : Leads edges start top := explores.sound top (.inr List.mem_cons_self)
      rcases known with known | stacked
      · rcases List.mem_cons.1 known with rfl | known
        · exact fromTop
        · exact explores.sound group (.inl known)
      · rcases List.mem_append.1 stacked with successor | stacked
        · exact fromTop.tail (mem_successors_iff.1 (order.mem_iff.1 successor))
        · exact explores.sound group (.inr (List.mem_cons_of_mem _ stacked))
  · cases turn with
    | again known => exact stays b (explores.frontier a b seenA edge)
    | @first top next rest seen _ order =>
      rcases List.mem_cons.1 seenA with rfl | seenA
      · exact .inr (List.mem_append_left _ (order.mem_iff.2 (mem_successors_iff.2 edge)))
      · exact stays b (explores.frontier a b seenA edge)

theorem Explores.turns {n : Nat} {s t : Search} (explores : Explores edges start s)
    (turns : Turns edges n s t) : Explores edges start t := by
  induction turns with
  | done => exact explores
  | turn one _ ih => exact ih (explores.turn one)

/-- With nothing left on the stack, the seen groups are those that `start` leads to. -/
theorem Explores.mem_seen_iff {seen : List String} (explores : Explores edges start ⟨[], seen⟩)
    {group : String} : group ∈ seen ↔ Leads edges start group := by
  constructor
  · exact fun found => explores.sound group (.inl found)
  · intro leads
    -- What is seen is closed under references.
    induction leads with
    | refl => exact explores.begins.elim id (by simp)
    | tail _ edge ih => exact (explores.frontier _ _ ih edge).elim id (by simp)

/-! ## The search -/

/-- The search is a run of the loop to its end. -/
theorem visit_turns (edges : List ReferenceEdge) (stack seen : List String) :
    ∃ n, Turns edges n ⟨stack, seen⟩ ⟨[], visit edges stack seen⟩ := by
  fun_induction visit edges stack seen with
  | case1 => exact ⟨0, .done⟩
  | case2 seen top rest known ih =>
    obtain ⟨n, others⟩ := ih
    exact ⟨n + 1, .turn (.again known) others⟩
  | case3 seen top rest unseen ih =>
    obtain ⟨n, others⟩ := ih
    exact ⟨n + 1, .turn (.first unseen (.refl _)) others⟩

/-- The search from a group finds exactly the groups that the group leads to. -/
theorem mem_reachable_iff {edges : List ReferenceEdge} {start group : String} :
    group ∈ reachable edges start ↔ Leads edges start group := by
  obtain ⟨n, turns⟩ := visit_turns edges [start] []
  exact ((explores_start edges start).turns turns).mem_seen_iff

/-- A reference is cyclic exactly if its target leads back to its source. -/
theorem mem_cyclicEdges_iff {edges : List ReferenceEdge} {a b : String} :
    (a, b) ∈ cyclicEdges edges ↔ (a, b) ∈ edges ∧ Leads edges b a := by
  unfold cyclicEdges isCyclic
  rw [List.mem_filter, List.contains_iff_mem, mem_reachable_iff]

/-! ## The order of reports -/

theorem edgeLE_iff {a b : ReferenceEdge} : edgeLE a b = true ↔ a.1 < b.1 ∨ a.1 = b.1 ∧ a.2 ≤ b.2 := by
  simp [edgeLE]

instance : Std.Total fun a b => edgeLE a b = true where
  total a b := by
    rw [edgeLE_iff, edgeLE_iff]
    rcases Std.lt_trichotomy a.1 b.1 with less | same | greater
    · exact .inl (.inl less)
    · exact (String.le_total a.2 b.2).imp (fun le => .inr ⟨same, le⟩) fun le => .inr ⟨same.symm, le⟩
    · exact .inr (.inl greater)

instance : IsTrans ReferenceEdge fun a b => edgeLE a b = true where
  trans a b c := by
    rw [edgeLE_iff, edgeLE_iff, edgeLE_iff]
    rintro (first | ⟨same, first⟩) (second | ⟨again, second⟩)
    · exact .inl (String.lt_trans first second)
    · exact .inl (again ▸ first)
    · exact .inl (same ▸ second)
    · exact .inr ⟨same.trans again, String.le_trans first second⟩

instance : Std.Antisymm fun a b => edgeLE a b = true where
  antisymm a b := by
    rw [edgeLE_iff, edgeLE_iff]
    rintro (first | ⟨same, first⟩) (second | ⟨again, second⟩)
    · exact absurd (String.lt_trans first second) (String.lt_irrefl _)
    · exact absurd first (again ▸ String.lt_irrefl _)
    · exact absurd second (same ▸ String.lt_irrefl _)
    · exact Prod.ext same (String.le_antisymm first second)

theorem place_eq_orderedInsert (edge : ReferenceEdge) (edges : List ReferenceEdge) :
    place edge edges = edges.orderedInsert (fun a b => edgeLE a b = true) edge := by
  induction edges with
  | nil => rfl
  | cons head rest ih =>
    unfold place
    rw [ih]
    rfl

/-- The references are sorted by insertion. -/
theorem sorted_eq_insertionSort (edges : List ReferenceEdge) :
    sorted edges = edges.eraseDups.insertionSort fun a b => edgeLE a b = true := by
  have inserts : place = List.orderedInsert fun a b => edgeLE a b = true := by
    funext edge others
    exact place_eq_orderedInsert edge others
  unfold sorted
  rw [inserts]
  rfl

theorem mem_sorted_iff {edges : List ReferenceEdge} {edge : ReferenceEdge} :
    edge ∈ sorted edges ↔ edge ∈ edges := by
  rw [sorted_eq_insertionSort, List.mem_insertionSort, List.mem_eraseDups]

/-- The same references are reported in the same order, in whichever order they are found. -/
theorem sorted_congr {xs ys : List ReferenceEdge} (same : ∀ edge, edge ∈ xs ↔ edge ∈ ys) :
    sorted xs = sorted ys := by
  have members : xs.eraseDups.Perm ys.eraseDups := by
    rw [List.perm_ext_iff_of_nodup (Grouping.nodup_eraseDups xs) (Grouping.nodup_eraseDups ys)]
    intro edge
    rw [List.mem_eraseDups, List.mem_eraseDups, same]
  rw [sorted_eq_insertionSort, sorted_eq_insertionSort]
  exact List.Perm.eq_of_pairwise' (List.pairwise_insertionSort _ _) (List.pairwise_insertionSort _ _)
    ((List.perm_insertionSort _ _).trans (members.trans (List.perm_insertionSort _ _).symm))

end WiringQuote.ReferenceGraph
