import JavaTypes.Proofs.Awaiting
import JavaTypes.Proofs.Stability

/-!
# Definitions of reserved slots

A reserved slot takes one node.  If it was made for a class, it takes a class of that name only, in
whatever spelling.  A definition that is refused changes nothing, so that the slot takes afterwards
what it would have taken before.
-/

namespace JavaTypes

/-- Whether a node is a class of the given name, in whatever spelling. -/
def Node.IsClassCalled (name : String) (node : Node) : Prop :=
  ∃ decl, node = .classDecl decl ∧ ClassName.same decl.name name = true

namespace Store

variable {store start next : Store} {id other : TypeId} {node : Node} {name key : String}

/-- Whether interning a class makes the given slot for it. -/
def Allots (store : Store) (name : String) (id : TypeId) : Prop :=
  (store.internClass name).1 = id ∧ store.size ≤ id.raw

/-- Whether a run of operations makes the given slot for a class of the given name. -/
def ReservedFor (start : Store) (operations : List Operation) (id : TypeId) (name : String) :
    Prop :=
  ∃ position, operations[position]? = some (.internClass name) ∧
    (start.after operations position).Allots name id

theorem fulfills_normalize_iff :
    fulfills (ClassName.normalize name) node = true ↔ node.IsClassCalled name := by
  simp only [fulfills_iff, Node.IsClassCalled, ClassName.same_iff]

/-- Interning a class keeps the slot that it makes for the class, and nothing else. -/
theorem reservations_internClass (coherent : store.Coherent) :
    (store.internClass name).2.reservations[id]? = some key ↔
      store.reservations[id]? = some key ∨
        store.Allots name id ∧ ClassName.normalize name = key := by
  by_cases same : id = (store.internClass name).1
  · subst same
    rw [show store.Allots name _ ↔ store.size ≤ (store.internClass name).1.raw from
      and_iff_right rfl]
    cases looked : store.lookupClass name with
    | some id =>
        have inside := (coherent.lt_size_of_lookupClass looked).not_ge
        simp [internClass_of_lookupClass looked, inside]
    | none =>
        have allots : store.size ≤ (store.internClass name).1.raw := by
          simp [internClass, looked, reserve, nextId]
        have free : store.reservations[(store.internClass name).1]? = none := by
          rw [internClass, looked]
          exact coherent.unreserved (by simp [Vacant, reserve, nodes_nextId])
        have kept : (store.internClass name).2.reservations[(store.internClass name).1]? =
            some (ClassName.normalize name) := by
          simp [internClass, looked, reserve]
        simp [free, allots, kept]
  · rw [reservations_internClass_of_ne same]
    have other_slot : ¬ store.Allots name id := fun allots => same allots.1.symm
    simp [other_slot]

theorem reservations_add (store : Store) (node : Node) :
    (store.add node).2.reservations = store.reservations := by
  cases node <;> rfl

/-- While a slot has no node, an operation keeps it for a class only by making it for that class,
and never stops doing so. -/
theorem reservations_perform (coherent : store.Coherent) {operation : Operation}
    (free : (store.perform operation).2.node? id = none) :
    (store.perform operation).2.reservations[id]? = some key ↔
      store.reservations[id]? = some key ∨
        ∃ name, operation = .internClass name ∧ store.Allots name id ∧
          ClassName.normalize name = key := by
  cases operation with
  | add node => simp [perform, reservations_add]
  | reserve => simp [perform, reserve]
  | define slot node =>
      rw [perform_define] at free ⊢
      cases done : store.define slot node with
      | error _ => simp
      | ok defined =>
          have ne : id ≠ slot := by
            rintro rfl
            simp [done, (puts_define done).node?_self] at free
          obtain ⟨-, -, rfl⟩ := define_eq_ok done
          simp [getElem?_erase_reservations, ne]
  | internClass name => simp [perform, reservations_internClass coherent]
  | addMethod decl => simp [perform, addMethod, reservations_listMethod, reservations_add]

theorem reservedFor_cons {operation : Operation} {operations : List Operation} :
    start.ReservedFor (operation :: operations) id name ↔
      operation = .internClass name ∧ start.Allots name id ∨
        (start.perform operation).2.ReservedFor operations id name := by
  refine Iff.trans Nat.or_exists_add_one.symm ?_
  simp only [ReservedFor, List.getElem?_cons_zero, List.getElem?_cons_succ, Option.some_inj,
    after_zero]
  rfl

/-- A slot that has no node after a run is kept for what it was kept for before and for what the run
made it for. -/
theorem reservations_run (coherent : store.Coherent) {operations : List Operation}
    (free : (store.run operations).node? id = none) :
    (store.run operations).reservations[id]? = some key ↔
      store.reservations[id]? = some key ∨
        ∃ name, store.ReservedFor operations id name ∧ ClassName.normalize name = key := by
  induction operations generalizing store with
  | nil => simp [run_nil, ReservedFor]
  | cons operation operations ih =>
      rw [run_cons] at free ⊢
      have free_before : (store.perform operation).2.node? id = none := by
        refine Option.eq_none_iff_forall_ne_some.mpr fun node found => ?_
        simp [node?_run found operations] at free
      rw [ih (coherent.perform operation) free, reservations_perform coherent free_before, or_assoc]
      refine or_congr_right ?_
      simp only [reservedFor_cons, or_and_right, exists_or, and_assoc]

theorem ReservedFor.size_le {operations : List Operation}
    (reserved : start.ReservedFor operations id name) : start.size ≤ id.raw := by
  obtain ⟨position, -, -, outside⟩ := reserved
  exact (size_run_le start _).trans outside

/-- As long as a slot waits for its node, it is kept for what it was kept for first. -/
theorem reservations_run_of_vacant (coherent : store.Coherent) {operations : List Operation}
    (vacant : store.Vacant id) (still : (store.run operations).Vacant id) :
    (store.run operations).reservations[id]? = store.reservations[id]? := by
  refine Option.ext fun key => ?_
  rw [reservations_run coherent still.node?_eq_none, or_iff_left]
  rintro ⟨name, reserved, -⟩
  exact vacant.lt_size.not_ge reserved.size_le

theorem define_eq_ok_iff :
    (∃ defined, store.define id node = .ok defined) ↔ store.defineError? id node = none := by
  constructor
  · rintro ⟨defined, done⟩
    obtain ⟨vacant, fits, -⟩ := define_eq_ok done
    exact defineError?_eq_none_iff.mpr ⟨vacant, fits⟩
  · exact define_of_accepted

theorem define_eq_error_iff {error : StoreError} :
    store.define id node = .error error ↔ store.defineError? id node = some error := by
  rw [define_eq]
  cases store.defineError? id node <;> simp

/-- What a definition is refused for. -/
theorem defineError?_eq_some_iff {error : StoreError} :
    store.defineError? id node = some error ↔
      error = .unknownId id ∧ store.size ≤ id.raw ∨
        error = .alreadyDefined id ∧ (∃ present, store.node? id = some present) ∨
        store.Vacant id ∧ ∃ key, store.reservations[id]? = some key ∧
          fulfills key node = false ∧ error = .classNameMismatch id key (foundName node) := by
  simp only [defineError?, Vacant, node?_eq_some]
  split
  case h_1 outside =>
    rw [Option.some_inj, eq_comm]
    simp [size, Array.getElem?_eq_none_iff.mp outside]
  case h_2 held =>
    rw [Option.some_inj, eq_comm]
    simp [held, (lt_size_of_node? (node?_eq_some.mpr held)).not_ge]
  case h_3 vacant =>
    have inside : ¬ store.size ≤ id.raw := (Vacant.lt_size vacant).not_ge
    cases kept : store.reservations[id]? with
    | none => simp [vacant, inside]
    | some expected =>
        simp only [Option.ite_none_left_eq_some, Option.some_inj]
        rw [eq_comm (a := StoreError.classNameMismatch id expected (foundName node))]
        simp [vacant, inside]

theorem Origin.reservations_eq_none (origin : Origin start) (id : TypeId) :
    start.reservations[id]? = none := by
  cases origin with
  | empty => rfl
  | standard => exact reservations_standard id
  | restored accepted =>
      obtain ⟨-, reindexed_eq⟩ := ofSlots_eq_ok accepted
      rw [← reindexed_eq]
      rfl

/-- Wherever building starts, a slot that waits for its node is kept for the class that it was made
for, if it was made for one. -/
theorem Origin.reservations_run (origin : Origin start) {operations : List Operation}
    (vacant : (start.run operations).Vacant id) :
    (start.run operations).reservations[id]? = some key ↔
      ∃ name, start.ReservedFor operations id name ∧ ClassName.normalize name = key := by
  rw [Store.reservations_run origin.coherent vacant.node?_eq_none, origin.reservations_eq_none]
  simp

theorem Origin.define_eq_error_iff (origin : Origin start) {operations : List Operation}
    (store_eq : store = start.run operations) {error : StoreError} :
    store.define id node = .error error ↔
      error = .unknownId id ∧ store.size ≤ id.raw ∨
        error = .alreadyDefined id ∧ (∃ present, store.node? id = some present) ∨
        store.Vacant id ∧ ∃ name, start.ReservedFor operations id name ∧
          ¬ node.IsClassCalled name ∧
          error = .classNameMismatch id (ClassName.normalize name) (foundName node) := by
  subst store_eq
  rw [Store.define_eq_error_iff, defineError?_eq_some_iff]
  refine or_congr_right (or_congr_right (and_congr_right fun vacant => ?_))
  constructor
  · rintro ⟨key, kept, unfit, rfl⟩
    obtain ⟨name, reserved, rfl⟩ := (origin.reservations_run vacant).mp kept
    refine ⟨name, reserved, fun called => ?_, rfl⟩
    simp [fulfills_normalize_iff.mpr called] at unfit
  · rintro ⟨name, reserved, uncalled, rfl⟩
    have unfit := mt fulfills_normalize_iff.mp uncalled
    exact ⟨_, (origin.reservations_run vacant).mpr ⟨name, reserved, rfl⟩,
      Bool.eq_false_iff.mpr unfit, rfl⟩

theorem Origin.define_eq_ok_iff (origin : Origin start) {operations : List Operation}
    (store_eq : store = start.run operations) :
    (∃ next, store.define id node = .ok next) ↔
      store.Vacant id ∧ ∀ name, start.ReservedFor operations id name → node.IsClassCalled name := by
  subst store_eq
  rw [Store.define_eq_ok_iff, defineError?_eq_none_iff]
  refine and_congr_right fun vacant => ?_
  simp only [origin.reservations_run vacant, forall_exists_index, and_imp,
    ← @fulfills_normalize_iff node]
  constructor
  · exact fun fits name reserved => fits _ name reserved rfl
  · rintro fits key name reserved rfl
    exact fits name reserved

/-- As long as a slot waits for its node, it takes what it took at first. -/
theorem define_run_eq_ok_iff (coherent : store.Coherent) {operations : List Operation}
    (vacant : store.Vacant id) (still : (store.run operations).Vacant id) :
    (∃ next, (store.run operations).define id node = .ok next) ↔
      ∃ next, store.define id node = .ok next := by
  simp only [define_eq_ok_iff, defineError?_eq_none_iff, vacant, still,
    reservations_run_of_vacant coherent vacant still]

/-- Wherever building starts and whatever is done then, a definition is refused for an identity that
is not in the store, for one that has a node, and for one that was made for a class if it does not
define a class of that name, and for nothing else.  If it is refused, the store stays as it is, so
that the slot takes later what fits it.  If it is not, the node comes into its slot, which is kept
for no class any more, a class is registered unless its name is, and everything else stays. -/
theorem Origin.definition (origin : Origin start) {operations : List Operation}
    (store_eq : store = start.run operations) (id : TypeId) (node : Node) :
    (∀ error, store.define id node = .error error ↔
      error = .unknownId id ∧ store.size ≤ id.raw ∨
        error = .alreadyDefined id ∧ (∃ present, store.node? id = some present) ∨
        store.Vacant id ∧ ∃ name, start.ReservedFor operations id name ∧
          ¬ node.IsClassCalled name ∧
          error = .classNameMismatch id (ClassName.normalize name) (foundName node)) ∧
    ((∃ next, store.define id node = .ok next) ↔
      store.Vacant id ∧
        ∀ name, start.ReservedFor operations id name → node.IsClassCalled name) ∧
    (∀ error, store.define id node = .error error →
      store.perform (.define id node) = (.error error, store) ∧
        ∀ later fitting, store.Vacant id →
          (store.run (.define id node :: later)).Vacant id →
          (∀ name, start.ReservedFor operations id name → fitting.IsClassCalled name) →
          ∃ next, (store.run (.define id node :: later)).define id fitting = .ok next) ∧
    ∀ next, store.define id node = .ok next →
      store.perform (.define id node) = (.ok id, next) ∧
        (∀ other : TypeId, next.nodes[other.raw]? =
          if other = id then some (some node) else store.nodes[other.raw]?) ∧
        (∀ other : TypeId, next.reservations[other]? =
          if other = id then none else store.reservations[other]?) ∧
        ∀ key, next.index.find? key =
          (store.index.find? key).or (if fulfills key node then some id else none) := by
  refine ⟨fun error => origin.define_eq_error_iff store_eq, origin.define_eq_ok_iff store_eq, ?_,
    ?_⟩
  · intro error refused
    refine ⟨by rw [perform_define, refused], fun later fitting vacant still fits => ?_⟩
    have coherent : store.Coherent := store_eq ▸ origin.coherent.run operations
    exact (define_run_eq_ok_iff coherent vacant still).mpr
      ((origin.define_eq_ok_iff store_eq).mpr ⟨vacant, fits⟩)
  · intro next done
    have puts := puts_define done
    refine ⟨by rw [perform_define, done], puts, ?_⟩
    obtain ⟨-, -, rfl⟩ := define_eq_ok done
    exact ⟨getElem?_erase_reservations id, find?_registered store.index id node⟩

/-- The operations that make a store with a class and a slot that is kept for another one. -/
def awaiting : List Operation := [.add (.classDecl { name := "A" }), .internClass "B"]

theorem definition_of_awaiting :
    Origin empty ∧ awaited = empty.run awaiting ∧
      (awaited.size ≤ 15 ∧ awaited.define ⟨15⟩ .unknown = .error (.unknownId ⟨15⟩)) ∧
      (awaited.node? ⟨13⟩ = some (.classDecl { name := "A" }) ∧
        awaited.define ⟨13⟩ .unknown = .error (.alreadyDefined ⟨13⟩)) ∧
      ((awaited.Vacant ⟨14⟩ ∧ empty.ReservedFor awaiting ⟨14⟩ "B" ∧
          ¬ (Node.array ⟨13⟩).IsClassCalled "B") ∧
        awaited.define ⟨14⟩ (.array ⟨13⟩) =
          .error (.classNameMismatch ⟨14⟩ (ClassName.normalize "B") "array") ∧
        awaited.perform (.define ⟨14⟩ (.array ⟨13⟩)) =
          (.error (.classNameMismatch ⟨14⟩ (ClassName.normalize "B") "array"), awaited) ∧
        (awaited.run [.define ⟨14⟩ (.array ⟨13⟩), .reserve]).Vacant ⟨14⟩ ∧
        ∃ next, (awaited.run [.define ⟨14⟩ (.array ⟨13⟩), .reserve]).define ⟨14⟩
          (.classDecl { name := "B" }) = .ok next) ∧
      ∃ next, awaited.define ⟨14⟩ (.classDecl { name := "B" }) = .ok next ∧
        (∀ other : TypeId, next.nodes[other.raw]? =
          if other = ⟨14⟩ then some (some (.classDecl { name := "B" }))
          else awaited.nodes[other.raw]?) ∧
        (∀ other : TypeId, next.reservations[other]? =
          if other = ⟨14⟩ then none else awaited.reservations[other]?) ∧
        ∀ key, next.index.find? key = (awaited.index.find? key).or
          (if fulfills key (.classDecl { name := "B" }) then some ⟨14⟩ else none) := by
  have origin : Origin empty := .empty
  have awaited_eq : awaited = empty.run awaiting := rfl
  have outside : awaited.size ≤ 15 := by decide +kernel
  have present : awaited.node? ⟨13⟩ = some (.classDecl { name := "A" }) := by decide +kernel
  have vacant : awaited.Vacant ⟨14⟩ := by decide +kernel
  have still : (awaited.run [.define ⟨14⟩ (.array ⟨13⟩), .reserve]).Vacant ⟨14⟩ := by
    decide +kernel
  have reserved : empty.ReservedFor awaiting ⟨14⟩ "B" :=
    ⟨1, rfl, by decide +kernel, by decide +kernel⟩
  have only {name : String} (made : empty.ReservedFor awaiting ⟨14⟩ name) : name = "B" := by
    obtain ⟨_ | _ | position, performed, -⟩ := made
    · cases performed
    · exact (Operation.internClass.inj (Option.some_inj.mp performed)).symm
    · cases performed
  have fits (name : String) (made : empty.ReservedFor awaiting ⟨14⟩ name) :
      (Node.classDecl { name := "B" }).IsClassCalled name :=
    ⟨_, rfl, only made ▸ ClassName.same_iff.mpr rfl⟩
  have unfit : ¬ (Node.array ⟨13⟩).IsClassCalled "B" := nofun
  obtain ⟨refused_iff, -, stays, -⟩ := origin.definition awaited_eq ⟨14⟩ (.array ⟨13⟩)
  obtain ⟨-, accepted_iff, -, placed⟩ :=
    origin.definition awaited_eq ⟨14⟩ (.classDecl { name := "B" })
  have refused := (refused_iff _).mpr (Or.inr (Or.inr ⟨vacant, "B", reserved, unfit, rfl⟩))
  obtain ⟨next, done⟩ := accepted_iff.mpr ⟨vacant, fits⟩
  exact ⟨origin, awaited_eq,
    ⟨outside, ((origin.definition awaited_eq ⟨15⟩ .unknown).1 _).mpr (Or.inl ⟨rfl, outside⟩)⟩,
    ⟨present, ((origin.definition awaited_eq ⟨13⟩ .unknown).1 _).mpr
      (Or.inr (Or.inl ⟨rfl, _, present⟩))⟩,
    ⟨⟨vacant, reserved, unfit⟩, refused, (stays _ refused).1, still,
      (stays _ refused).2 [.reserve] _ vacant still fits⟩,
    next, done, (placed next done).2⟩

end Store
end JavaTypes
