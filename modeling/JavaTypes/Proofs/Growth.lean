import JavaTypes.Graph
import JavaTypes.Proofs.Coherence

/-!
# How stores grow

Operations add nodes and fill vacant slots.  A node that is there stays as it is, except that a
class comes to list the methods that are added to it, in the order in which they are.
-/

namespace JavaTypes
namespace Node

/-- A node with more methods listed, if it is a class. -/
def listing (more : List TypeId) : Node → Node
  | classDecl decl => classDecl { decl with methods := decl.methods ++ more }
  | node => node

variable {node other : Node} {more : List TypeId}

theorem listing_nil (node : Node) : node.listing [] = node := by
  cases node with
  | classDecl decl => simp [listing]
  | _ => rfl

theorem listing_of_not_class (plain : ∀ decl, node ≠ classDecl decl) (more : List TypeId) :
    node.listing more = node := by
  cases node with
  | classDecl decl => exact absurd rfl (plain decl)
  | _ => rfl

theorem listing_listing (node : Node) (first second : List TypeId) :
    (node.listing first).listing second = node.listing (first ++ second) := by
  cases node with
  | classDecl decl => simp [listing]
  | _ => rfl

@[simp]
theorem isNominal_listing : (node.listing more).isNominal = node.isNominal := by cases node <;> rfl

@[simp]
theorem isWildcard_listing : (node.listing more).isWildcard = node.isWildcard := by
  cases node <;> rfl

@[simp]
theorem isNamedVariable_listing : (node.listing more).isNamedVariable = node.isNamedVariable := by
  cases node <;> rfl

@[simp]
theorem isString_listing : (node.listing more).isString = node.isString := by cases node <;> rfl

@[simp]
theorem listing_eq_unknown_iff : node.listing more = unknown ↔ node = unknown := by
  cases node <;> simp [listing]

@[simp]
theorem listing_eq_primitive_iff {kind : Primitive} :
    node.listing more = primitive kind ↔ node = primitive kind := by
  cases node <;> simp [listing]

/-- What nodes of different names, or nodes that are not both classes, are as values does not depend
on the methods that they list. -/
theorem sameValue_listing {others : List TypeId}
    (apart : ∀ first second, node = classDecl first → other = classDecl second →
      first.name ≠ second.name) :
    (node.listing more).sameValue (other.listing others) = node.sameValue other := by
  cases node with
  | classDecl first =>
      cases other with
      | classDecl second =>
          have name_ne : first.name ≠ second.name := apart first second rfl rfl
          have ne : first ≠ second := fun eq => name_ne (congrArg ClassDecl.name eq)
          rw [Bool.eq_iff_iff, sameValue.eq_def, sameValue.eq_def]
          simp [listing, name_ne, ne]
      | _ => rfl
  | _ => cases other <;> rfl

end Node

namespace Store

variable {store next last : Store} {id other : TypeId} {node present : Node}

theorem node?_add (found : store.node? id = some node) (added : Node) :
    (store.add added).2.node? id = some node := by
  cases added with
  | unknown | primitive _ => exact found
  | classDecl _ | parameterized _ _ | annotationUse _ _ | array _ | typeVariable _
  | intersection _ | variableDecl _ | methodDecl _ | multiCatch _ =>
      exact (puts_push _).stays (by simp [node?, nodes_nextId]) found

theorem node?_define (found : store.node? id = some node)
    (done : store.define other present = .ok next) : next.node? id = some node := by
  obtain ⟨vacant, -⟩ := define_eq_ok done
  exact (puts_define done).stays vacant.node?_eq_none found

theorem node?_listMethod (found : store.node? id = some node) (owner method : TypeId) :
    (store.listMethod owner method).node? id =
      some (node.listing (if owner = id then [method] else [])) := by
  by_cases cls : ∃ decl, store.node? owner = some (.classDecl decl)
  · obtain ⟨decl, listed⟩ := cls
    have puts := puts_listMethod method listed
    by_cases same : owner = id
    · subst same
      obtain rfl : node = .classDecl decl := Option.some.inj (found.symm.trans listed)
      rw [if_pos rfl]
      exact puts.node?_self
    · rw [if_neg same, node.listing_nil, puts.node?_of_ne (Ne.symm same), found]
  · rw [listMethod_of_no_class cls, found]
    by_cases same : owner = id
    · subst same
      have plain : ∀ decl, node ≠ .classDecl decl := fun decl node_eq =>
        cls ⟨decl, node_eq ▸ found⟩
      rw [node.listing_of_not_class plain]
    · rw [if_neg same, node.listing_nil]

/-- The method that an operation adds to a declaring type, if it adds one. -/
def methodAdded (store : Store) (owner : TypeId) : Operation → List TypeId
  | .addMethod decl => if decl.declaringType = owner then [(store.addMethod decl).1] else []
  | .add _ | .reserve | .define _ _ | .internClass _ => []

/-- The methods that a run of operations adds to a declaring type, in the order of the calls. -/
def methodsAdded (store : Store) (owner : TypeId) : List Operation → List TypeId
  | [] => []
  | operation :: operations =>
      store.methodAdded owner operation ++
        methodsAdded (store.perform operation).2 owner operations

/-- An operation leaves the nodes that are there as they are, but for a method that it adds to one
of them. -/
theorem node?_perform (found : store.node? id = some node) (operation : Operation) :
    (store.perform operation).2.node? id =
      some (node.listing (store.methodAdded id operation)) := by
  cases operation with
  | add added => exact node.listing_nil.symm ▸ node?_add found added
  | reserve => exact node.listing_nil.symm ▸ (node?_reserve id).trans found
  | define slot defined =>
      rw [perform_define, methodAdded, node.listing_nil]
      cases done : store.define slot defined with
      | ok next => exact node?_define found done
      | error _ => exact found
  | internClass name => exact node.listing_nil.symm ▸ (node?_internClass store name id).trans found
  | addMethod decl => exact node?_listMethod (node?_add found (.methodDecl decl)) _ _

/-- Whatever is done to a store, its nodes stay as they are but for the methods that are added to
them. -/
theorem node?_run (found : store.node? id = some node) (operations : List Operation) :
    (store.run operations).node? id = some (node.listing (store.methodsAdded id operations)) := by
  induction operations generalizing store node with
  | nil => exact node.listing_nil.symm ▸ found
  | cons operation operations ih =>
      rw [methodsAdded, ← node.listing_listing]
      exact ih (node?_perform found operation)

/-- Whether every node of a store is in the same slot of another, where a class may list more
methods. -/
def GrowsTo (store next : Store) : Prop :=
  ∀ id node, store.node? id = some node → ∃ more, next.node? id = some (node.listing more)

namespace GrowsTo

theorem refl (store : Store) : store.GrowsTo store := fun _ node found =>
  ⟨[], node.listing_nil.symm ▸ found⟩

theorem trans (first : store.GrowsTo next) (second : next.GrowsTo last) : store.GrowsTo last := by
  intro id node found
  obtain ⟨earlier, found⟩ := first id node found
  obtain ⟨later, found⟩ := second id _ found
  exact ⟨earlier ++ later, found.trans (congrArg some (node.listing_listing earlier later))⟩

theorem add (store : Store) (added : Node) : store.GrowsTo (store.add added).2 :=
  fun _ node found => ⟨[], node.listing_nil.symm ▸ node?_add found added⟩

theorem run (store : Store) (operations : List Operation) :
    store.GrowsTo (store.run operations) := fun _ _ found => ⟨_, node?_run found operations⟩

end GrowsTo
end Store
end JavaTypes
