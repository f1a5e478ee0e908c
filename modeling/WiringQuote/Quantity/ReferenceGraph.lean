/-!
# Reference graphs

A formula of one product group may refer to the total of another. `cyclicEdges` finds the references
that lie on a cycle: those from `a` to `b` for which `a` can be reached again from `b`.

The search keeps a stack of groups to visit and a list of groups seen. Each step either drops a
seen group from the stack or moves the references of a new group onto it, so the number of stacked
groups and of references not yet followed falls by one.
-/

namespace WiringQuote

/-- A reference from the first group to the second. -/
abbrev ReferenceEdge := String × String

namespace ReferenceGraph

/-- The groups that a group refers to. -/
def successors (edges : List ReferenceEdge) (group : String) : List String :=
  (edges.filter fun edge => edge.1 = group).map (·.2)

/-- The number of references whose source has not been seen. -/
def pending (edges : List ReferenceEdge) (seen : List String) : Nat :=
  (edges.filter fun edge => edge.1 ∉ seen).length

theorem successors_length_add_pending {edges : List ReferenceEdge} {seen : List String}
    {group : String} (unseen : group ∉ seen) :
    (successors edges group).length + pending edges (group :: seen) = pending edges seen := by
  induction edges with
  | nil => rfl
  | cons edge rest ih =>
    simp only [successors, pending, List.length_map] at ih ⊢
    by_cases same : edge.1 = group
    · simp [same, unseen]
      simp only [List.mem_cons, not_or, decide_not, Bool.decide_and] at ih
      omega
    · by_cases known : edge.1 ∈ seen
      · simp [same, known]
        simpa using ih
      · simp [same, known]
        simp only [List.mem_cons, not_or, decide_not, Bool.decide_and] at ih
        omega

/-- The seen groups and those that can be reached from the stack through unseen ones. -/
def visit (edges : List ReferenceEdge) (stack seen : List String) : List String :=
  match stack with
  | [] => seen
  | group :: rest =>
    if group ∈ seen then visit edges rest seen
    else visit edges (successors edges group ++ rest) (group :: seen)
termination_by stack.length + pending edges seen
decreasing_by
  · simp
  · rename_i unseen
    have moved := @successors_length_add_pending edges _ _ unseen
    simp only [List.length_append, List.length_cons]
    omega

/-- The groups that can be reached from a group, itself included. -/
def reachable (edges : List ReferenceEdge) (group : String) : List String :=
  visit edges [group] []

/-- The reference lies on a cycle. -/
def isCyclic (edges : List ReferenceEdge) (edge : ReferenceEdge) : Bool :=
  (reachable edges edge.2).contains edge.1

/-- The references that lie on a cycle, in the given order. -/
def cyclicEdges (edges : List ReferenceEdge) : List ReferenceEdge := edges.filter (isCyclic edges)

/-- The order of references by source and then by target, as texts. -/
def edgeLE (a b : ReferenceEdge) : Bool := a.1 < b.1 || (a.1 == b.1 && a.2 ≤ b.2)

/-- Puts a reference before the first one that is not below it. -/
def place (edge : ReferenceEdge) : List ReferenceEdge → List ReferenceEdge
  | [] => [edge]
  | head :: rest => if edgeLE edge head then edge :: head :: rest else head :: place edge rest

/-- The references in order, each once. -/
def sorted (edges : List ReferenceEdge) : List ReferenceEdge := edges.eraseDups.foldr place []

end ReferenceGraph

end WiringQuote
