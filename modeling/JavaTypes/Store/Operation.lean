import JavaTypes.Store

/-!
# Runs of store operations

The operations that build a store, as values, so that one can speak of every store that some run of
them leads to.  An operation that is refused leaves the store as it was.
-/

namespace JavaTypes

/-- An operation on a store. -/
inductive Operation where
  /-- Adds a node; the other ways to add one are this with a node of some form. -/
  | add (node : Node)
  | reserve
  | define (id : TypeId) (node : Node)
  | internClass (name : String)
  | addMethod (decl : MethodDecl)
  deriving DecidableEq, Repr

namespace Store

/-- Performs an operation, which answers the identity that it is about. -/
def perform (store : Store) : Operation → Except StoreError TypeId × Store
  | .add node =>
    let (id, next) := store.add node
    (.ok id, next)
  | .reserve =>
    let (id, next) := store.reserve
    (.ok id, next)
  | .define id node =>
    let (outcome, next) := store.tryDefine id node
    (outcome.map fun _ => id, next)
  | .internClass name =>
    let (id, next) := store.internClass name
    (.ok id, next)
  | .addMethod decl =>
    let (id, next) := store.addMethod decl
    (.ok id, next)

/-- A definition that is refused changes nothing. -/
theorem tryDefine_of_error {store : Store} {id : TypeId} {node : Node} {error : StoreError}
    (refused : (store.tryDefine id node).1 = .error error) : (store.tryDefine id node).2 = store := by
  rw [tryDefine] at refused ⊢
  split at refused
  · rfl
  · cases refused

/-- A definition is performed, or refused without a change. -/
theorem perform_define (store : Store) (id : TypeId) (node : Node) :
    store.perform (.define id node) =
      match store.define id node with
      | .ok next => (.ok id, next)
      | .error error => (.error error, store) := by
  rw [perform, define]
  rcases tried : store.tryDefine id node with ⟨⟨error⟩ | ⟨⟨⟩⟩, next⟩
  · have unchanged : (store.tryDefine id node).2 = store := tryDefine_of_error (by rw [tried])
    rw [tried] at unchanged
    exact congrArg (Prod.mk _) unchanged
  · rfl

/-- Only definitions are refused, and what is refused changes nothing. -/
theorem perform_of_error {store : Store} {operation : Operation} {error : StoreError}
    (refused : (store.perform operation).1 = .error error) : (store.perform operation).2 = store := by
  cases operation with
  | define id node =>
      rw [perform_define] at refused ⊢
      split at refused
      · cases refused
      · rfl
  | _ => cases refused

/-- The store after a run of operations. -/
def run (store : Store) (operations : List Operation) : Store :=
  operations.foldl (fun current operation => (current.perform operation).2) store

theorem run_nil (store : Store) : store.run [] = store := rfl

theorem run_cons (store : Store) (operation : Operation) (operations : List Operation) :
    store.run (operation :: operations) = (store.perform operation).2.run operations := rfl

theorem run_append (store : Store) (first second : List Operation) :
    store.run (first ++ second) = (store.run first).run second := by
  simp [run, List.foldl_append]

end Store
end JavaTypes
