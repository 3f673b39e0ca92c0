import JavaTypes.Store.Operation
import JavaTypes.Store.Standard
import Mathlib.Tactic.Basic

/-!
# Stores that operations build

Building starts from a store of the shared nodes, with or without the standard classes, and goes on
by operations.  The standard classes themselves are made by operations, so that what every
operation preserves holds of every store that is built.
-/

namespace JavaTypes

/-- Whether an operation puts nothing but classes into reserved slots. -/
def Operation.DefinesClasses : Operation → Prop
  | .define _ (.classDecl _) => True
  | .define _ _ => False
  | .add _ | .reserve | .internClass _ | .addMethod _ => True

namespace Construction

variable {α β : Type}

/-- Whether operations that define nothing but classes do to every store what a construction does
to it. -/
def Performed (construction : Construction α) : Prop :=
  ∀ store, ∃ operations, (∀ operation ∈ operations, operation.DefinesClasses) ∧
    construction.build store = store.run operations

theorem performed_pure (value : α) : Performed (pure value) := fun _ =>
  ⟨[], List.forall_mem_nil _, rfl⟩

theorem performed_single {construction : Construction α} (operation : Operation)
    (classes : operation.DefinesClasses)
    (build_eq : ∀ store, construction.build store = (store.perform operation).2) :
    Performed construction := fun store =>
  ⟨[operation], List.forall_mem_singleton.mpr classes, build_eq store⟩

theorem performed_bind {first : Construction α} {next : α → Construction β}
    (first_performed : Performed first) (next_performed : ∀ value, Performed (next value)) :
    Performed (first >>= next) := by
  intro store
  obtain ⟨firsts, first_classes, first_eq⟩ := first_performed store
  obtain ⟨nexts, next_classes, next_eq⟩ := next_performed (first.run store).1 (first.build store)
  refine ⟨firsts ++ nexts, List.forall_mem_append.mpr ⟨first_classes, next_classes⟩, ?_⟩
  rw [Store.run_append, ← first_eq, ← next_eq]
  rfl

theorem performed_discard {construction : Construction α} (performed : Performed construction) :
    Performed (discard construction) :=
  performed_bind performed fun _ => performed_pure ()

theorem performed_intern (name : String) : Performed (intern name) :=
  performed_single (.internClass name) trivial fun _ => rfl

theorem build_declare (decl : ClassDecl) (store : Store) :
    (declare decl).build store =
      store.run [.internClass decl.name,
        .define (store.internClass decl.name).1 (.classDecl decl)] := by
  have interned_eq : (store.perform (.internClass decl.name)).2 =
      (store.internClass decl.name).2 := rfl
  rw [build, StateT.run, declare, Store.run_cons, Store.run_cons, Store.run_nil, interned_eq,
    Store.perform_define]
  simp only [Store.defineClass]
  generalize store.internClass decl.name = interned
  cases interned.2.define interned.1 (.classDecl decl) <;> rfl

theorem performed_declare (decl : ClassDecl) : Performed (declare decl) := fun store =>
  ⟨_, by simp [Operation.DefinesClasses], build_declare decl store⟩

theorem performed_method (owner : TypeId) (name : String) (returnType : TypeId)
    (parameters : List TypeId) (flags : Flags) :
    Performed (method owner name returnType parameters flags) :=
  performed_single
    (.addMethod (MethodDecl.withParameters { name, declaringType := owner, returnType, flags }
      parameters)) trivial fun _ => rfl

theorem performed_parameter (name : String) : Performed (parameter name) :=
  performed_single (.add (.typeVariable { name })) trivial fun _ => rfl

theorem performed_apply (base : TypeId) (arguments : List TypeId) :
    Performed (apply base arguments) :=
  performed_single (.add (.parameterized base arguments)) trivial fun _ => rfl

theorem performed_interface (name : String) (interfaces typeParameters : List TypeId) :
    Performed (interface name interfaces typeParameters) := performed_declare _

theorem performed_wrapper (comparable supertype : TypeId) (interfaces : List TypeId)
    (name : String) : Performed (wrapper comparable supertype interfaces name) :=
  performed_bind (performed_intern name) fun _ =>
    performed_bind (performed_apply _ _) fun _ => performed_discard (performed_declare _)

theorem performed_forIn {names : List String} {body : String → Construction Unit}
    (performed : ∀ name, Performed (body name)) :
    Performed (forIn names PUnit.unit fun name _ => do
      body name
      pure (ForInStep.yield PUnit.unit)) := by
  induction names with
  | nil => exact performed_pure _
  | cons name names ih =>
      rw [List.forIn_cons, bind_assoc]
      exact performed_bind (performed name) fun _ => ih

/-- The first class of the standard classes is the root, right after the slot for strings. -/
theorem exists_standard_eq_bind :
    ∃ rest : TypeId → TypeId → Construction Unit,
      (∀ string object, Performed (rest string object)) ∧
        standard = intern ClassName.string >>= fun string =>
          declare { name := ClassName.object, flags := .publicFlag } >>= rest string := by
  refine ⟨_, fun string object => ?_, rfl⟩
  unfold languageClasses collections throwables
  repeat' with_reducible first
    | exact performed_intern _ | exact performed_parameter _ | exact performed_interface _ _ _
    | exact performed_method _ _ _ _ _ | exact performed_declare _ | exact performed_apply _ _
    | exact performed_wrapper _ _ _ _ | refine performed_discard ?_
    | refine performed_forIn fun _ => ?_ | refine performed_bind ?_ fun _ => ?_

theorem performed_standard : Performed standard := by
  obtain ⟨rest, rest_performed, standard_eq⟩ := exists_standard_eq_bind
  rw [standard_eq]
  exact performed_bind (performed_intern _) fun string =>
    performed_bind (performed_declare _) (rest_performed string)

end Construction

namespace Store

/-- Whether a run of operations leads to a store from one of the two that building starts from. -/
def Built (store : Store) : Prop :=
  ∃ operations, store = empty.run operations ∨ store = standard.run operations

/-- A store of the shared nodes, the slot for strings and the root class. -/
def rootStore : Store :=
  empty.run
    [.internClass ClassName.string, .internClass ClassName.object,
      .define ⟨14⟩ (.classDecl { name := ClassName.object, flags := .publicFlag })]

theorem exists_standard_eq_run_rootStore : ∃ operations, standard = rootStore.run operations := by
  obtain ⟨rest, rest_performed, standard_eq⟩ := Construction.exists_standard_eq_bind
  obtain ⟨operations, -, rest_eq⟩ := rest_performed ⟨13⟩ ⟨14⟩ rootStore
  have string_eq : Construction.intern ClassName.string empty =
      (⟨13⟩, empty.run [.internClass ClassName.string]) := by rfl
  have object_eq : Construction.declare { name := ClassName.object, flags := .publicFlag }
      (empty.run [.internClass ClassName.string]) = (⟨14⟩, rootStore) :=
    Prod.ext (by decide +kernel) (by decide +kernel)
  refine ⟨operations, ?_⟩
  rw [standard, standard_eq, ← rest_eq]
  simp only [Construction.build, StateT.run, bind, StateT.bind, string_eq, object_eq]

theorem exists_standard_eq_run :
    ∃ operations, (∀ operation ∈ operations, operation.DefinesClasses) ∧
      standard = empty.run operations :=
  Construction.performed_standard empty

theorem Built.exists_eq_run {store : Store} (built : store.Built) :
    ∃ operations, store = empty.run operations := by
  obtain ⟨operations, fromEmpty | fromStandard⟩ := built
  · exact ⟨operations, fromEmpty⟩
  · obtain ⟨constructing, -, standard_eq⟩ := exists_standard_eq_run
    exact ⟨constructing ++ operations, by rw [fromStandard, standard_eq, run_append]⟩

end Store
end JavaTypes
