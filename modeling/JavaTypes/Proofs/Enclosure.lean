import JavaTypes.Proofs.Reachability
import JavaTypes.Proofs.Snapshot

/-!
# Enclosed parts of a graph

A part of a graph is enclosed if nothing in it refers to anything outside, and the registered
classes and the primitives belong to it.  What is looked up from inside and what a walk visits that
starts inside then lies inside.
-/

namespace JavaTypes
namespace Graph

/-- Whether nothing leads out of a part of a graph: no reference of a node, and neither the index of
names nor the table of primitives. -/
structure Encloses (graph : Graph) (inside : TypeId → Prop) : Prop where
  references : ∀ {id node}, inside id → graph.node id = some node →
    ∀ other ∈ node.references, inside other
  registered : ∀ {name id}, graph.classId name = some id → inside id
  primitive : ∀ kind, inside (graph.primitive kind)

/-- Whether the references that a walk follows from inside a part lead inside. -/
def KeepsInside (branches : TypeId → Option (List TypeId)) (inside : TypeId → Prop) : Prop :=
  ∀ id, inside id → ∀ references ∈ branches id, ∀ next ∈ references, inside next

variable {graph : Graph} {inside : TypeId → Prop} {id : TypeId} {decl : ClassDecl}

theorem encloses_all (graph : Graph) : graph.Encloses fun _ => True where
  references _ _ _ _ := trivial
  registered _ := trivial
  primitive _ := trivial

theorem KeepsInside.mem_walk {branches : TypeId → Option (List TypeId)} {start visited : TypeId}
    (keeps : KeepsInside branches inside)
    (defined : ∀ id references, branches id = some references → graph.node id ≠ none)
    (start_in : inside start) (member : visited ∈ (graph.walk branches start).toList) :
    inside visited := by
  have path := (mem_walk_iff defined).mp member
  clear member
  induction path with
  | refl => exact start_in
  | tail _ leads ih =>
      obtain ⟨references, branching, referred⟩ := leads
      exact keeps _ ih references branching _ referred

namespace Encloses

variable (encloses : graph.Encloses inside)

include encloses

theorem references_classBehind (id_in : inside id) (behind : graph.classBehind id = some decl) :
    ∀ other ∈ decl.references, inside other := by
  have of_class {cls : TypeId} (cls_in : inside cls) (found : graph.classDecl? cls = some decl) :
      ∀ other ∈ decl.references, inside other :=
    encloses.references cls_in (node_eq_of_classDecl? found)
  rw [classBehind] at behind
  split at behind
  · next own node_eq => exact of_class id_in ((classDecl?_eq_some node_eq).trans behind)
  · next base arguments node_eq =>
      exact of_class (encloses.references id_in node_eq base List.mem_cons_self) behind
  · next type values node_eq =>
      exact of_class (encloses.references id_in node_eq type List.mem_cons_self) behind
  · cases behind

theorem methods (id_in : inside id) : ∀ method ∈ graph.methods id, inside method := by
  intro method member
  rw [Graph.methods] at member
  cases behind : graph.classBehind id with
  | none => simp [behind] at member
  | some decl =>
      have listed : method ∈ decl.methods := by simpa [behind] using member
      refine encloses.references_classBehind id_in behind method ?_
      simp [ClassDecl.references, listed]

theorem superclass {super : TypeId} (decl_in : ∀ other ∈ decl.references, inside other)
    (super_eq : graph.superclass decl = some super) : inside super := by
  rw [Graph.superclass] at super_eq
  split at super_eq
  · next declared_eq =>
      refine decl_in super ?_
      simp [ClassDecl.references, declared_eq.trans super_eq]
  · cases super_eq
  · cases super_eq
  all_goals
    split at super_eq
    · cases super_eq
    · exact encloses.registered super_eq

theorem supertypes (id_in : inside id) : ∀ super ∈ graph.supertypes id, inside super := by
  intro super member
  rw [Graph.supertypes, supertype, interfaces] at member
  cases behind : graph.classBehind id with
  | none => simp [behind] at member
  | some decl =>
      have decl_in := encloses.references_classBehind id_in behind
      rw [behind, Option.bind_some, Option.map_some, Option.getD_some] at member
      rcases List.mem_append.mp member with extended | implemented
      · exact encloses.superclass decl_in (Option.mem_toList.mp extended)
      · refine decl_in super ?_
        simp [ClassDecl.references, implemented]

theorem keepsInside_ancestors : KeepsInside graph.ancestors inside := by
  intro id id_in references branching
  have node_in {node : Node} (node_eq : graph.node id = some node) :
      ∀ other ∈ node.references, inside other := encloses.references id_in node_eq
  rw [ancestors] at branching
  split at branching
  case h_1 | h_2 => cases branching
  case h_3 | h_4 | h_5 =>
    obtain rfl := Option.some.inj branching
    exact encloses.supertypes id_in
  case h_6 node_eq | h_7 node_eq =>
    obtain rfl := Option.some.inj branching
    exact node_in node_eq
  case h_8 node_eq =>
    obtain rfl := Option.some.inj branching
    exact List.forall_mem_singleton.mpr (node_in node_eq _ List.mem_cons_self)
  case h_9 node_eq =>
    obtain rfl := Option.some.inj branching
    refine List.forall_mem_singleton.mpr (node_in node_eq _ ?_)
    exact List.mem_cons_of_mem _ List.mem_cons_self
  case h_10 | h_11 | h_12 =>
    obtain rfl := Option.some.inj branching
    exact List.forall_mem_nil _

theorem keepsInside_declaredSupertypes : KeepsInside graph.declaredSupertypes inside := by
  intro id id_in references branching next referred
  obtain ⟨node, node_eq, rfl⟩ := Option.map_eq_some_iff.mp branching
  exact encloses.supertypes id_in next referred

theorem keepsInside_nominalSupertypes : KeepsInside graph.nominalSupertypes inside := by
  intro id id_in references branching
  rw [nominalSupertypes] at branching
  split at branching
  · obtain ⟨-, same⟩ := Option.ite_none_right_eq_some.mp branching
    obtain rfl := Option.some.inj same
    exact encloses.supertypes id_in
  · cases branching

theorem keepsInside_underlying : KeepsInside graph.underlying inside := by
  intro id id_in references branching
  have node_in {node : Node} (node_eq : graph.node id = some node) :
      ∀ other ∈ node.references, inside other := encloses.references id_in node_eq
  rw [underlying] at branching
  split at branching
  case h_1 node_eq | h_3 node_eq =>
    obtain rfl := Option.some.inj branching
    exact List.forall_mem_singleton.mpr (node_in node_eq _ List.mem_cons_self)
  case h_2 node_eq =>
    obtain rfl := Option.some.inj branching
    refine List.forall_mem_singleton.mpr (node_in node_eq _ ?_)
    exact List.mem_cons_of_mem _ List.mem_cons_self
  case h_4 => cases branching

end Encloses
end Graph
end JavaTypes
