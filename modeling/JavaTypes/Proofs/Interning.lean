import JavaTypes.Proofs.Registration

/-!
# Shared nodes

The unresolved type and the primitives have one slot each, to which adding them leads.  Defining a
reserved slot does not look for them, so that a definition is how another slot may come to hold one
of them, and the only way.
-/

namespace JavaTypes

/-- Whether stores share a node: the unresolved type and the primitives. -/
def Node.isShared : Node → Bool
  | .unknown | .primitive _ => true
  | .classDecl _ | .parameterized _ _ | .annotationUse _ _ | .array _ | .typeVariable _
  | .intersection _ | .variableDecl _ | .methodDecl _ | .multiCatch _ => false

namespace Store

variable {store next start : Store} {id other : TypeId} {node present : Node}

/-- Every shared node is in its own slot only. -/
structure Interned (store : Store) : Prop where
  unknown_only : ∀ id, store.node? id = some .unknown → id = unknown
  primitive_only : ∀ id kind, store.node? id = some (.primitive kind) → id = primitive kind

/-- A node that takes the place of no shared node is the only shared node that a slot may gain. -/
theorem Puts.node?_shared (puts : store.Puts other present next)
    (plain : ∀ old, store.node? other = some old → old.isShared = false)
    (shared : node.isShared = true) :
    next.node? id = some node ↔ store.node? id = some node ∨ id = other ∧ present = node := by
  by_cases same : id = other
  · subst same
    have absent : store.node? id ≠ some node := fun found => by
      simp [plain node found] at shared
    rw [puts.node?_self, Option.some_inj, or_iff_right absent, and_iff_right rfl]
  · rw [puts.node?_of_ne same]
    simp [same]

theorem Puts.node?_shared_of_plain (puts : store.Puts other present next)
    (plain : ∀ old, store.node? other = some old → old.isShared = false)
    (present_plain : present.isShared = false) (shared : node.isShared = true) :
    next.node? id = some node ↔ store.node? id = some node := by
  have ne : present ≠ node := by
    rintro rfl
    simp [shared] at present_plain
  simp [puts.node?_shared plain shared, ne]

theorem node?_add_shared (present : Node) (shared : node.isShared = true) :
    (store.add present).2.node? id = some node ↔ store.node? id = some node := by
  have free : ∀ old, store.node? store.nextId = some old → old.isShared = false := by
    simp [node?, nodes_nextId]
  cases present with
  | unknown | primitive _ => rfl
  | classDecl _ | parameterized _ _ | annotationUse _ _ | array _ | typeVariable _
  | intersection _ | variableDecl _ | methodDecl _ | multiCatch _ =>
      exact (puts_push _).node?_shared_of_plain free rfl shared

theorem node?_listMethod_shared (owner method : TypeId) (shared : node.isShared = true) :
    (store.listMethod owner method).node? id = some node ↔ store.node? id = some node := by
  by_cases held : ∃ decl, store.node? owner = some (.classDecl decl)
  · obtain ⟨decl, held⟩ := held
    have plain : ∀ old, store.node? owner = some old → old.isShared = false := by
      simp [held, Node.isShared]
    exact (puts_listMethod method held).node?_shared_of_plain plain rfl shared
  · rw [listMethod_of_no_class held]

theorem define_of_accepted (accepted : store.defineError? id node = none) :
    ∃ defined, store.define id node = .ok defined := by
  rw [define_eq, accepted]
  exact ⟨_, rfl⟩

theorem vacant_of_accepted (accepted : store.defineError? id node = none) : store.Vacant id :=
  (defineError?_eq_none_iff.mp accepted).1

/-- An operation puts a shared node into another slot only by defining that slot. -/
theorem node?_perform_shared (operation : Operation) (shared : node.isShared = true) :
    (store.perform operation).2.node? id = some node ↔
      store.node? id = some node ∨
        operation = .define id node ∧ store.defineError? id node = none := by
  cases operation with
  | add present => simpa [perform] using node?_add_shared present shared
  | reserve => simp [perform, node?_reserve]
  | define other present =>
      rw [perform_define, Operation.define.injEq]
      cases refused : store.defineError? other present with
      | some error =>
          have same_only : (other = id ∧ present = node) ∧ store.defineError? id node = none →
              store.node? id = some node := by
            rintro ⟨⟨rfl, rfl⟩, accepted⟩
            simp [refused] at accepted
          simpa [define_eq, refused] using same_only
      | none =>
          obtain ⟨defined, done⟩ := define_of_accepted refused
          have vacant := vacant_of_accepted refused
          have plain : ∀ old, store.node? other = some old → old.isShared = false := by
            simp [vacant.node?_eq_none]
          rw [done, (puts_define done).node?_shared plain shared]
          refine or_congr_right ⟨?_, ?_⟩
          · rintro ⟨rfl, rfl⟩
            exact ⟨⟨rfl, rfl⟩, refused⟩
          · rintro ⟨⟨rfl, rfl⟩, -⟩
            exact ⟨rfl, rfl⟩
  | internClass name => simp [perform, node?_internClass]
  | addMethod decl =>
      have listed : (store.addMethod decl).2.node? id = some node ↔
          (store.add (.methodDecl decl)).2.node? id = some node :=
        node?_listMethod_shared _ _ shared
      simpa [perform] using listed.trans (node?_add_shared (.methodDecl decl) shared)

/-- After a run a shared node is where it was before and where it was defined. -/
theorem node?_run_shared (operations : List Operation) (shared : node.isShared = true) :
    (store.run operations).node? id = some node ↔
      store.node? id = some node ∨
        ∃ position, operations[position]? = some (.define id node) ∧
          (store.after operations position).defineError? id node = none := by
  induction operations generalizing store with
  | nil => simp [run_nil]
  | cons operation operations ih =>
      have rest : (store.run (operation :: operations)).node? id = some node ↔
          (store.perform operation).2.node? id = some node ∨
            ∃ position, operations[position]? = some (.define id node) ∧
              (store.after (operation :: operations) (position + 1)).defineError? id node = none :=
        ih
      rw [rest, node?_perform_shared operation shared, or_assoc]
      refine or_congr_right (Iff.trans ?_ Nat.or_exists_add_one)
      simp [after_zero]

/-- A run from a store with every shared node in its own slot leaves it so, unless it defines a
slot to be a shared node. -/
theorem Interned.run (interned : start.Interned) {operations : List Operation}
    (refused : ∀ position id node, operations[position]? = some (.define id node) →
      node.isShared = true → (start.after operations position).defineError? id node ≠ none) :
    (start.run operations).Interned := by
  have before {id : TypeId} {node : Node} (shared : node.isShared = true)
      (found : (start.run operations).node? id = some node) : start.node? id = some node := by
    refine ((node?_run_shared operations shared).mp found).resolve_right ?_
    rintro ⟨position, performed, accepted⟩
    exact refused position id node performed shared accepted
  constructor
  case unknown_only => exact fun id found => interned.unknown_only id (before rfl found)
  case primitive_only =>
    exact fun id kind found => interned.primitive_only id kind (before rfl found)

theorem interned_empty : empty.Interned := by
  have slot_of {id : TypeId} {node : Node} (found : empty.node? id = some node) :
      sharedNodes[id.raw]? = some (some node) := by
    rw [node?_eq_some, empty, List.getElem?_toArray] at found
    exact found
  constructor
  case unknown_only =>
    rintro ⟨raw⟩ found
    cases raw with
    | zero => rfl
    | succ place => simpa [sharedNodes] using slot_of found
  case primitive_only =>
    rintro ⟨raw⟩ kind found
    cases raw with
    | zero => simpa [sharedNodes] using slot_of found
    | succ place =>
        have listed : Primitive.all[place]? = some kind := by
          simpa [sharedNodes] using slot_of found
        obtain ⟨inside, kind_eq⟩ := List.getElem?_eq_some_iff.mp listed
        have index_eq : kind.index = place := kind_eq ▸ index_get_all ⟨place, inside⟩
        rw [primitive, index_eq, Nat.add_comm]

theorem interned_standard : standard.Interned := by
  obtain ⟨operations, classes, standard_eq⟩ := exists_standard_eq_run
  rw [standard_eq]
  refine interned_empty.run fun position id node performed shared _ => ?_
  have class_only := classes _ (List.mem_of_getElem? performed)
  cases node <;> simp [Operation.DefinesClasses, Node.isShared] at class_only shared

/-- Every shared node stays in its own slot only, provided that no definition of a reserved slot to
be one is accepted, and only then. -/
theorem run_interned_iff (beginning : start = empty ∨ start = standard)
    (operations : List Operation) :
    (start.run operations).Interned ↔
      ∀ position id node, operations[position]? = some (.define id node) →
        node.isShared = true → (start.after operations position).defineError? id node ≠ none := by
  obtain ⟨coherent, interned⟩ : start.Coherent ∧ start.Interned := by
    rcases beginning with start_eq | start_eq
    · rw [start_eq]
      exact ⟨coherent_empty, interned_empty⟩
    · rw [start_eq]
      exact ⟨Origin.standard.coherent, interned_standard⟩
  constructor
  · intro interned position id node performed shared accepted
    have found : (start.run operations).node? id = some node :=
      (node?_run_shared operations shared).mpr (Or.inr ⟨position, performed, accepted⟩)
    have coherent : (start.after operations position).Coherent := coherent.run _
    have vacant := (vacant_of_accepted accepted).node?_eq_none
    cases node with
    | unknown =>
        obtain rfl := interned.unknown_only id found
        simp [coherent.unknown_slot] at vacant
    | primitive kind =>
        obtain rfl := interned.primitive_only id kind found
        simp [coherent.primitive_slot] at vacant
    | classDecl _ | parameterized _ _ | annotationUse _ _ | array _ | typeVariable _
    | intersection _ | variableDecl _ | methodDecl _ | multiCatch _ => cases shared
  · intro refused
    exact interned.run refused

/-- Operations that try to define the slot of a class and a shared slot to be shared nodes. -/
def refusedRepetitions : List Operation :=
  [.internClass "p.A", .define ⟨13⟩ .unknown, .define (primitive .int) (.primitive .long)]

theorem run_interned_of_refused :
    (empty = empty ∨ empty = standard) ∧ (empty.run refusedRepetitions).Interned := by
  refine ⟨Or.inl rfl, (run_interned_iff (Or.inl rfl) refusedRepetitions).mpr ?_⟩
  rintro (_ | _ | _ | position) id node performed shared
  · cases performed
  · obtain ⟨rfl, rfl⟩ := Operation.define.inj (Option.some_inj.mp performed)
    decide +kernel
  · obtain ⟨rfl, rfl⟩ := Operation.define.inj (Option.some_inj.mp performed)
    decide +kernel
  · cases performed

/-- A store in which reserved slots were defined to be a primitive and the unresolved type. -/
def repeated : Store :=
  empty.run [.reserve, .reserve, .define ⟨13⟩ (.primitive .int), .define ⟨14⟩ .unknown]

/-- Definitions of reserved slots give shared nodes a second slot. -/
theorem not_interned_of_repeated :
    repeated.Built ∧
      (repeated.node? ⟨13⟩ = some (.primitive .int) ∧ ⟨13⟩ ≠ primitive .int) ∧
      (repeated.node? ⟨14⟩ = some .unknown ∧ ⟨14⟩ ≠ unknown) ∧ ¬ repeated.Interned := by
  have node_eq : repeated.node? ⟨14⟩ = some .unknown := by decide +kernel
  have ne : (⟨14⟩ : TypeId) ≠ unknown := by decide
  exact ⟨⟨_, Or.inl rfl⟩, ⟨by decide +kernel, by decide⟩, ⟨node_eq, ne⟩,
    fun interned => ne (interned.unknown_only _ node_eq)⟩

end Store
end JavaTypes
