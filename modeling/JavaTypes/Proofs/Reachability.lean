import JavaTypes.Proofs.DepthFirst

/-!
# What walks visit

A walk visits exactly the identities that its start leads to, however the references run in circles,
and it visits them in depth-first order.  It comes to its own end, as only defined nodes branch.
-/

namespace JavaTypes
namespace Graph

variable {graph : Graph} {branches : TypeId → Option (List TypeId)} {start id : TypeId}

theorem ancestors_defined (id : TypeId) (references : List TypeId)
    (branching : graph.ancestors id = some references) : graph.node id ≠ none := by
  intro undefined
  simp [ancestors, undefined] at branching

theorem declaredSupertypes_defined (id : TypeId) (references : List TypeId)
    (branching : graph.declaredSupertypes id = some references) : graph.node id ≠ none := by
  intro undefined
  simp [declaredSupertypes, undefined] at branching

theorem nominalSupertypes_defined (id : TypeId) (references : List TypeId)
    (branching : graph.nominalSupertypes id = some references) : graph.node id ≠ none := by
  intro undefined
  simp [nominalSupertypes, undefined] at branching

theorem underlying_defined (id : TypeId) (references : List TypeId)
    (branching : graph.underlying id = some references) : graph.node id ≠ none := by
  intro undefined
  simp [underlying, undefined] at branching

theorem lt_size_of_defined
    (defined : ∀ id references, branches id = some references → graph.node id ≠ none)
    (id : TypeId) (references : List TypeId) (branching : branches id = some references) :
    id.raw < graph.size := by
  by_contra outside
  exact defined id references branching (graph.node_eq_none id (not_lt.mp outside))

theorem ancestors_inside (id : TypeId) (references : List TypeId)
    (branching : graph.ancestors id = some references) : id.raw < graph.size :=
  lt_size_of_defined ancestors_defined id references branching

/-- A walk over defined branching nodes goes no further with more room. -/
theorem walk_of_more
    (defined : ∀ id references, branches id = some references → graph.node id ≠ none) (more : Nat) :
    walkFrom branches (graph.size + 1 + more) ∅ [start] = graph.walk branches start :=
  walkFrom_of_more (lt_size_of_defined defined)
    (Nat.lt_succ_of_le (unentered_le graph.size ∅)) more

/-- A walk over defined branching nodes visits what its start leads to in depth-first order. -/
theorem depthFirst_walk
    (defined : ∀ id references, branches id = some references → graph.node id ≠ none) :
    DepthFirst branches [] [start] (graph.walk branches start).toList := by
  refine depthFirst_walkFrom (lt_size_of_defined defined)
    (Nat.lt_succ_of_le (unentered_le graph.size ∅)) ?_
  exact fun id _ => iff_of_false Std.TreeSet.not_mem_emptyc List.not_mem_nil

/-- A walk over defined branching nodes visits what its start leads to, and nothing else. -/
theorem mem_walk_iff
    (defined : ∀ id references, branches id = some references → graph.node id ≠ none) :
    id ∈ (graph.walk branches start).toList ↔ Relation.ReflTransGen (Leads branches) start id :=
  (depthFirst_walk defined).mem_iff

end Graph
end JavaTypes
