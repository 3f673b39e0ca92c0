import JavaTypes.Proofs.Growth
import JavaTypes.Proofs.Interning

/-!
# Stability of identities

What an identity stands for never changes.  Stores do not shrink, a node that is there stays, and
the methods of a class are extended at the end by those that are added to it.  An identity that is
handed out lies in the store, and unless it leads to a shared node or to a class that was known
before, no slot had it.
-/

namespace JavaTypes
namespace Store

variable {store : Store} {id : TypeId} {node : Node} {name : String}

theorem lt_size_of_node? (found : store.node? id = some node) : id.raw < store.size :=
  (Array.getElem?_eq_some_iff.mp (node?_eq_some.mp found)).1

theorem Vacant.lt_size (vacant : store.Vacant id) : id.raw < store.size :=
  (Array.getElem?_eq_some_iff.mp vacant).1

theorem Coherent.lt_size_of_lookupClass (coherent : store.Coherent)
    (looked : store.lookupClass name = some id) : id.raw < store.size := by
  rcases coherent.index_leads _ id looked with ⟨node, found, -⟩ | ⟨vacant, -⟩
  · exact lt_size_of_node? found
  · exact vacant.lt_size

theorem size_listMethod (store : Store) (owner method : TypeId) :
    (store.listMethod owner method).size = store.size := by
  unfold listMethod
  split <;> simp [size]

theorem size_reserve (store : Store) : store.reserve.2.size = store.size + 1 := by
  simp [reserve, size]

theorem size_push (store : Store) (node : Node) : (store.push node).2.size = store.size + 1 := by
  simp [push, size]

/-- No operation makes a store smaller. -/
theorem size_perform_le (store : Store) (operation : Operation) :
    store.size ≤ (store.perform operation).2.size := by
  cases operation with
  | add node => exact size_add_le store node
  | reserve => exact (size_reserve store).symm ▸ Nat.le_succ _
  | define id node =>
      rw [perform_define]
      cases done : store.define id node with
      | error _ => exact le_rfl
      | ok defined =>
          obtain ⟨-, -, rfl⟩ := define_eq_ok done
          simp [size]
  | internClass name =>
      simp only [perform, internClass]
      cases store.lookupClass name with
      | some id => exact le_rfl
      | none => exact (size_reserve store).symm ▸ Nat.le_succ _
  | addMethod decl =>
      simp only [perform, addMethod, size_listMethod]
      exact size_add_le store _

theorem size_run_le (store : Store) (operations : List Operation) :
    store.size ≤ (store.run operations).size := by
  induction operations generalizing store with
  | nil => exact le_rfl
  | cons operation operations ih => exact (size_perform_le store operation).trans (ih _)

/-- What an operation that adds something hands out: a shared node or a class that was there, or a
slot that was not. -/
theorem Coherent.handedOut (coherent : store.Coherent) {operation : Operation}
    (adds : ∀ slot node, operation ≠ .define slot node)
    (answered : (store.perform operation).1 = .ok id) :
    id.raw < (store.perform operation).2.size ∧
      ((∃ node, operation = .add node ∧ node.isShared = true ∧ store.node? id = some node) ∨
        (∃ name, operation = .internClass name ∧ store.lookupClass name = some id) ∨
        store.size ≤ id.raw) := by
  cases operation with
  | add node =>
      obtain rfl : (store.add node).1 = id := Except.ok.inj answered
      cases node with
      | unknown =>
          exact ⟨lt_size_of_node? coherent.unknown_slot,
            Or.inl ⟨.unknown, rfl, rfl, coherent.unknown_slot⟩⟩
      | primitive kind =>
          exact ⟨lt_size_of_node? (coherent.primitive_slot kind),
            Or.inl ⟨.primitive kind, rfl, rfl, coherent.primitive_slot kind⟩⟩
      | classDecl _ | parameterized _ _ | annotationUse _ _ | array _ | typeVariable _
      | intersection _ | variableDecl _ | methodDecl _ | multiCatch _ =>
          exact ⟨(size_push store _).symm ▸ Nat.lt_succ_self store.size,
            Or.inr (Or.inr le_rfl)⟩
  | reserve =>
      obtain rfl : store.nextId = id := Except.ok.inj answered
      exact ⟨(size_reserve store).symm ▸ Nat.lt_succ_self store.size, Or.inr (Or.inr le_rfl)⟩
  | define slot node => exact absurd rfl (adds slot node)
  | internClass name =>
      obtain rfl : (store.internClass name).1 = id := Except.ok.inj answered
      simp only [Store.perform, Store.internClass]
      cases looked : store.lookupClass name with
      | some found =>
          exact ⟨coherent.lt_size_of_lookupClass looked, Or.inr (Or.inl ⟨name, rfl, looked⟩)⟩
      | none =>
          exact ⟨(size_reserve store).symm ▸ Nat.lt_succ_self store.size, Or.inr (Or.inr le_rfl)⟩
  | addMethod decl =>
      obtain rfl : store.nextId = id := Except.ok.inj answered
      have size_eq : (store.addMethod decl).2.size = store.size + 1 :=
        (size_listMethod _ _ _).trans (size_push store (.methodDecl decl))
      exact ⟨size_eq.symm ▸ Nat.lt_succ_self store.size, Or.inr (Or.inr le_rfl)⟩

/-- Whatever is done from a store on, it does not get smaller, its nodes stay, but for the methods
that are added to a class, which come to stand at the end of its list in the order of the calls, and
every identity that is handed out lies in the store and is that of a shared node or of a class that
was known, or was not in the store before. -/
theorem Reached.stability (reached : store.Reached) (operations : List Operation) :
    store.size ≤ (store.run operations).size ∧
      (∀ id node, store.node? id = some node →
        (store.run operations).node? id =
          some (node.listing (store.methodsAdded id operations))) ∧
      ∀ position operation id, operations[position]? = some operation →
        (∀ slot node, operation ≠ .define slot node) →
        ((store.after operations position).perform operation).1 = .ok id →
        id.raw < (store.after operations (position + 1)).size ∧
          ((∃ node, operation = .add node ∧ node.isShared = true ∧
              (store.after operations position).node? id = some node) ∨
            (∃ name, operation = .internClass name ∧
              (store.after operations position).lookupClass name = some id) ∨
            (store.after operations position).size ≤ id.raw) := by
  refine ⟨size_run_le store operations, fun id node found => node?_run found operations, ?_⟩
  intro position operation id performed adds answered
  rw [after_succ performed]
  exact (reached.run _).coherent.handedOut adds answered

/-- A store with a class and a slot that is kept for another one. -/
def awaited : Store := empty.run [.add (.classDecl { name := "A" }), .internClass "B"]

/-- Operations that add two methods to the class, and between them find the class and a primitive
again and define the other class. -/
def methodsBetween : List Operation :=
  [.addMethod { name := "run", declaringType := ⟨13⟩, returnType := primitive .void },
    .internClass "A", .add (.primitive .void), .define ⟨14⟩ (.classDecl { name := "B" }),
    .addMethod { name := "stop", declaringType := ⟨13⟩, returnType := primitive .void }]

theorem stability_of_methodsBetween :
    awaited.Reached ∧ awaited.size ≤ (awaited.run methodsBetween).size ∧
      (awaited.node? ⟨13⟩ = some (.classDecl { name := "A" }) ∧
        (awaited.run methodsBetween).node? ⟨13⟩ =
          some (.classDecl { name := "A", methods := [⟨15⟩, ⟨16⟩] })) ∧
      ((awaited.after methodsBetween 1).perform (.internClass "A")).1 = .ok ⟨13⟩ ∧
        13 < (awaited.after methodsBetween 2).size ∧
          ((∃ node, .internClass "A" = Operation.add node ∧ node.isShared = true ∧
              (awaited.after methodsBetween 1).node? ⟨13⟩ = some node) ∨
            (∃ name, .internClass "A" = Operation.internClass name ∧
              (awaited.after methodsBetween 1).lookupClass name = some ⟨13⟩) ∨
            (awaited.after methodsBetween 1).size ≤ 13) := by
  have reached : awaited.Reached := ⟨empty, _, .empty, rfl⟩
  have found : awaited.node? ⟨13⟩ = some (.classDecl { name := "A" }) := by decide +kernel
  have methods_eq : awaited.methodsAdded ⟨13⟩ methodsBetween = [⟨15⟩, ⟨16⟩] := by decide +kernel
  have answered : ((awaited.after methodsBetween 1).perform (.internClass "A")).1 = .ok ⟨13⟩ := by
    decide +kernel
  obtain ⟨larger, stays, handed⟩ := reached.stability methodsBetween
  have listed := stays ⟨13⟩ _ found
  rw [methods_eq] at listed
  exact ⟨reached, larger, ⟨found, listed⟩, answered, handed 1 _ _ rfl nofun answered⟩

end Store
end JavaTypes
