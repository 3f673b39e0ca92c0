import JavaTypes.Proofs.Restoration

/-!
# Registration of classes

Building may also start from a snapshot.  Wherever it starts, a registered name leads to its class
or to the slot that is kept for it, and every class is registered under its name.  A registration
is never changed, so that one identity stands for one name over a whole run.
-/

namespace JavaTypes
namespace Store

variable {store : Store} {id : TypeId} {key name : String}

/-- The stores that building may start from: those of the shared nodes, with or without the
standard classes, and those that a snapshot restores. -/
inductive Origin : Store → Prop where
  | empty : Origin empty
  | standard : Origin standard
  | restored {slots : Array (Option Node)} {store : Store} (accepted : ofSlots slots = .ok store) :
      Origin store

/-- Whether a run of operations leads to a store from one that building may start from. -/
def Reached (store : Store) : Prop :=
  ∃ start operations, Origin start ∧ store = start.run operations

theorem Origin.of_ofDatum [Flags.TextForm] {datum : Datum} (read : ofDatum datum = .ok store) :
    Origin store := by
  simp only [ofDatum] at read
  split at read
  · cases read
  · next slots _ =>
      cases accepted : ofSlots slots.toArray with
      | error cause => simp [accepted, Except.mapError] at read
      | ok restored =>
          simp only [accepted, Except.mapError, Except.ok.injEq] at read
          exact .restored (read ▸ accepted)

/-- Slots are accepted only if they start with the shared nodes, and their classes are indexed. -/
theorem ofSlots_eq_ok {slots : Array (Option Node)} (accepted : ofSlots slots = .ok store) :
    sharedNodes <+: store.nodes.toList ∧ store.reindexed = store := by
  rw [ofSlots] at accepted
  split_ifs at accepted with missing misplaced disordered
  obtain rfl := Except.ok.inj accepted
  rw [ne_eq, not_not] at disordered
  exact ⟨disordered ▸ List.take_prefix sharedSize slots.toList, rfl⟩

theorem node?_of_shared (shared : sharedNodes <+: store.nodes.toList) {node : Node}
    (slot : sharedNodes[id.raw]? = some (some node)) : store.node? id = some node := by
  obtain ⟨inside, -⟩ := List.getElem?_eq_some_iff.mp slot
  rw [node?_eq_some, ← Array.getElem?_toList, ← slot]
  exact (List.prefix_iff_getElem?.mp shared id.raw inside).trans
    (List.getElem?_eq_getElem inside).symm

theorem coherent_reindexed (shared : sharedNodes <+: store.nodes.toList) :
    store.reindexed.Coherent := by
  constructor
  case unknown_slot => exact node?_of_shared shared rfl
  case primitive_slot =>
    intro kind
    have slot : sharedNodes[(primitive kind).raw]? = some (some (.primitive kind)) := by
      cases kind <;> rfl
    exact node?_of_shared shared slot
  case index_leads =>
    intro key id found
    exact Or.inl ((find?_reindexed_eq_some shared).mp found).1
  case reservation_waits => simp [reindexed]
  case class_known =>
    rintro id key ⟨node, present, named⟩ unknown
    rw [find?_reindexed shared, Option.map_eq_none_iff, List.findIdx?_eq_none_iff] at unknown
    have slot := node?_eq_some.mp present
    have nameless := unknown (some node) (Array.mem_toList_iff.mpr (Array.mem_of_getElem? slot))
    simp [named] at nameless

theorem Origin.coherent (origin : Origin store) : store.Coherent := by
  cases origin with
  | empty => exact coherent_empty
  | standard =>
      obtain ⟨operations, -, standard_eq⟩ := exists_standard_eq_run
      exact standard_eq ▸ coherent_empty.run operations
  | restored accepted =>
      obtain ⟨shared, reindexed_eq⟩ := ofSlots_eq_ok accepted
      exact reindexed_eq ▸ coherent_reindexed shared

theorem Reached.coherent (reached : store.Reached) : store.Coherent := by
  obtain ⟨start, operations, origin, rfl⟩ := reached
  exact origin.coherent.run operations

theorem Reached.run (reached : store.Reached) (operations : List Operation) :
    (store.run operations).Reached := by
  obtain ⟨start, earlier, origin, rfl⟩ := reached
  exact ⟨start, earlier ++ operations, origin, (run_append start earlier operations).symm⟩

theorem fulfills_iff {node : Node} :
    fulfills key node = true ↔
      ∃ decl, node = .classDecl decl ∧ ClassName.normalize decl.name = key := by
  cases node <;> simp [fulfills]

theorem holdsClass_iff :
    store.HoldsClass key id ↔
      ∃ decl, store.node? id = some (.classDecl decl) ∧ ClassName.normalize decl.name = key := by
  simp only [HoldsClass, fulfills_iff]
  constructor
  · rintro ⟨node, present, decl, rfl, named⟩
    exact ⟨decl, present, named⟩
  · rintro ⟨decl, present, named⟩
    exact ⟨_, present, decl, rfl, named⟩

/-- A shared slot neither holds a class nor waits for one. -/
theorem Coherent.sharedSize_le (coherent : store.Coherent)
    (leads : store.HoldsClass key id ∨ store.Vacant id) : sharedSize ≤ id.raw := by
  by_contra below
  have inside : id.raw < sharedNodes.length := Nat.not_le.mp below
  have slot_eq : store.nodes[id.raw]? = some sharedNodes[id.raw] := by
    rw [← Array.getElem?_toList]
    exact List.prefix_iff_getElem?.mp coherent.isPrefix_sharedNodes id.raw inside
  have shared : sharedNodes[id.raw] ∈ sharedNodes := List.getElem_mem inside
  rcases leads with ⟨node, present, named⟩ | vacant
  · rw [node?_eq_some, slot_eq, Option.some_inj] at present
    have nameless := not_fulfills_sharedNodes key _ shared
    simp [present, named] at nameless
  · rw [Vacant, slot_eq, Option.some_inj] at vacant
    rw [vacant] at shared
    simp [sharedNodes] at shared

/-- Wherever building starts and whatever is done then, refused operations included, the shared
nodes stand in their slots, a registered name leads past them to a class of that name or to a slot
that is kept for one, a slot is kept only while it waits and where its name leads, and the name of
every class is registered. -/
theorem Reached.agreement (reached : store.Reached) :
    sharedNodes <+: store.nodes.toList ∧
      (∀ key id, store.index.find? key = some id →
        sharedSize ≤ id.raw ∧ id.raw < store.size ∧
          ((∃ decl, store.node? id = some (.classDecl decl) ∧
              ClassName.normalize decl.name = key) ∨
            store.nodes[id.raw]? = some none ∧ store.reservations[id]? = some key)) ∧
      (∀ id key, store.reservations[id]? = some key →
        store.nodes[id.raw]? = some none ∧ store.index.find? key = some id) ∧
      ∀ id decl, store.node? id = some (.classDecl decl) →
        ∃ registered, store.index.find? (ClassName.normalize decl.name) = some registered := by
  have coherent := reached.coherent
  refine ⟨coherent.isPrefix_sharedNodes, ?_, coherent.reservation_waits, ?_⟩
  · intro key id found
    have leads := coherent.index_leads key id found
    have inside : id.raw < store.size := by
      rcases leads with ⟨node, present, -⟩ | ⟨vacant, -⟩
      · exact (Array.getElem?_eq_some_iff.mp (node?_eq_some.mp present)).1
      · exact (Array.getElem?_eq_some_iff.mp vacant).1
    exact ⟨coherent.sharedSize_le (leads.imp_right And.left), inside,
      leads.imp_left holdsClass_iff.mp⟩
  · intro id decl present
    have known := coherent.class_known id _ (holdsClass_iff.mpr ⟨decl, present, rfl⟩)
    exact Option.ne_none_iff_exists'.mp known

/-- A store that was restored with two classes of one name and goes on with a class that is
reserved, a definition of it that is refused, and another class of its name. -/
def resumed : Store :=
  lateClass.reindexed.run
    [.reserve, .internClass "q.B$C", .define ⟨16⟩ (.array ⟨13⟩),
      .add (.classDecl { name := "q.B.C" })]

theorem origin_lateClass_reindexed : Origin lateClass.reindexed := by
  have built : lateClass.Built := ⟨_, Or.inl rfl⟩
  have words : lateClass.RefersToWords := by decide +kernel
  have finite : lateClass.HoldsFinite := by decide +kernel
  exact .of_ofDatum (built.coherent.ofDatum_toDatum words finite)

theorem agreement_of_resumed :
    resumed.Reached ∧ sharedNodes <+: resumed.nodes.toList ∧
      (resumed.index.find? "q.B.C" = some ⟨16⟩ ∧ sharedSize ≤ 16 ∧ 16 < resumed.size ∧
        ((∃ decl, resumed.node? ⟨16⟩ = some (.classDecl decl) ∧
            ClassName.normalize decl.name = "q.B.C") ∨
          resumed.nodes[16]? = some none ∧
            resumed.reservations[(⟨16⟩ : TypeId)]? = some "q.B.C")) ∧
      (resumed.reservations[(⟨16⟩ : TypeId)]? = some "q.B.C" ∧
        resumed.nodes[16]? = some none ∧ resumed.index.find? "q.B.C" = some ⟨16⟩) ∧
      resumed.node? ⟨17⟩ = some (.classDecl { name := "q.B.C" }) ∧
        ∃ registered,
          resumed.index.find? (ClassName.normalize "q.B.C") = some registered := by
  have reached : resumed.Reached := ⟨_, _, origin_lateClass_reindexed, rfl⟩
  have kept : resumed.reservations[(⟨16⟩ : TypeId)]? = some "q.B.C" := by decide +kernel
  have present : resumed.node? ⟨17⟩ = some (.classDecl { name := "q.B.C" }) := by decide +kernel
  obtain ⟨shared, leads, waits, known⟩ := reached.agreement
  have found : resumed.index.find? "q.B.C" = some ⟨16⟩ := (waits _ _ kept).2
  exact ⟨reached, shared, ⟨found, leads _ _ found⟩, ⟨kept, waits _ _ kept⟩, present,
    known _ _ present⟩

theorem find?_registered_of_find? {index : NameIndex} (found : index.find? key = some id)
    (other : TypeId) (node : Node) : (registered index other node).find? key = some id := by
  rw [find?_registered, found, Option.some_or]

theorem find?_add (found : store.index.find? key = some id) (node : Node) :
    (store.add node).2.index.find? key = some id := by
  cases node with
  | unknown | primitive _ => exact found
  | classDecl _ | parameterized _ _ | annotationUse _ _ | array _ | typeVariable _
  | intersection _ | variableDecl _ | methodDecl _ | multiCatch _ =>
      exact find?_registered_of_find? found _ _

/-- Once registered, a name leads to the same identity after every operation. -/
theorem find?_perform (found : store.index.find? key = some id) (operation : Operation) :
    (store.perform operation).2.index.find? key = some id := by
  cases operation with
  | add node => exact find?_add found node
  | reserve => exact found
  | define other node =>
      rw [perform_define]
      cases done : store.define other node with
      | error _ => exact found
      | ok defined =>
          obtain ⟨-, -, rfl⟩ := define_eq_ok done
          exact find?_registered_of_find? found other node
  | internClass other =>
      simp only [perform, internClass]
      cases store.lookupClass other with
      | some _ => exact found
      | none =>
          have kept : store.reserve.2.index.find? key = some id := found
          simp [find?_register, kept]
  | addMethod decl =>
      simp only [perform, addMethod, index_listMethod]
      exact find?_add found _

theorem find?_run (found : store.index.find? key = some id) (operations : List Operation) :
    (store.run operations).index.find? key = some id := by
  induction operations generalizing store with
  | nil => exact found
  | cons operation operations ih => exact ih (find?_perform found operation)

theorem internClass_of_lookupClass (looked : store.lookupClass name = some id) :
    store.internClass name = (id, store) := by
  rw [internClass, looked]

theorem lookupClass_internClass (store : Store) (name : String) :
    (store.internClass name).2.lookupClass name = some (store.internClass name).1 := by
  cases looked : store.lookupClass name with
  | some id => rw [internClass_of_lookupClass looked, looked]
  | none =>
      have free : store.index.find? (ClassName.normalize name) = none := looked
      simp [internClass, lookupClass, reserve, find?_register, free]

/-- In a store whose parts agree, an identity is registered for one name only. -/
theorem Coherent.find?_injective (coherent : store.Coherent) {first second : String}
    (found : store.index.find? first = some id) (foundToo : store.index.find? second = some id) :
    first = second := by
  rcases coherent.index_leads first id found with held | ⟨vacant, kept⟩
  · rcases coherent.index_leads second id foundToo with heldToo | ⟨vacantToo, -⟩
    · obtain ⟨decl, present, rfl⟩ := holdsClass_iff.mp held
      obtain ⟨declToo, presentToo, rfl⟩ := holdsClass_iff.mp heldToo
      obtain rfl : decl = declToo := by simpa [present] using presentToo
      rfl
    · obtain ⟨decl, present, -⟩ := holdsClass_iff.mp held
      simp [vacantToo.node?_eq_none] at present
  · rcases coherent.index_leads second id foundToo with heldToo | ⟨-, keptToo⟩
    · obtain ⟨decl, present, -⟩ := holdsClass_iff.mp heldToo
      simp [vacant.node?_eq_none] at present
    · simpa [kept] using keptToo

/-- The store after the first operations of a run. -/
def after (store : Store) (operations : List Operation) (count : Nat) : Store :=
  store.run (operations.take count)

theorem after_zero (store : Store) (operations : List Operation) :
    store.after operations 0 = store := rfl

theorem after_of_le (store : Store) (operations : List Operation) {count later : Nat}
    (le : count ≤ later) :
    ∃ between, store.after operations later = (store.after operations count).run between := by
  obtain ⟨between, take_eq⟩ := List.take_prefix_take_left (l := operations) le
  exact ⟨between, by rw [after, after, ← run_append, take_eq]⟩

theorem after_succ {operations : List Operation} {position : Nat} {operation : Operation}
    (performed : operations[position]? = some operation) :
    store.after operations (position + 1) =
      ((store.after operations position).perform operation).2 := by
  rw [after, List.take_add_one, performed, run_append]
  rfl

/-- What a class was interned as is what its name leads to from then on. -/
theorem lookupClass_after_internClass {operations : List Operation} {count later : Nat}
    (interned : operations[count]? = some (.internClass name)) (less : count < later) :
    (store.after operations later).lookupClass name =
      some ((store.after operations count).internClass name).1 := by
  obtain ⟨between, later_eq⟩ := store.after_of_le operations (Nat.succ_le_of_lt less)
  rw [later_eq, after_succ interned]
  exact find?_run (lookupClass_internClass _ name) between

/-- Over a run two classes are interned as one exactly if their names have one source spelling, and
what a name leads to at one moment every spelling of it leads to from then on. -/
theorem Reached.class_identity (reached : store.Reached) (operations : List Operation) :
    (∀ first second name other, operations[first]? = some (.internClass name) →
      operations[second]? = some (.internClass other) →
      (((store.after operations first).internClass name).1 =
          ((store.after operations second).internClass other).1 ↔
        ClassName.normalize name = ClassName.normalize other)) ∧
    ∀ moment later name spelling id, moment ≤ later →
      (store.after operations moment).lookupClass name = some id →
      ClassName.normalize spelling = ClassName.normalize name →
      (store.after operations later).lookupClass spelling = some id ∧
        ((store.after operations later).internClass spelling).1 = id := by
  constructor
  · intro first second name other interned internedToo
    -- Both registrations are still there when both calls have been made.
    let last := max first second + 1
    have found : (store.after operations last).lookupClass name = _ :=
      lookupClass_after_internClass interned (Nat.lt_succ_of_le (le_max_left first second))
    have foundToo : (store.after operations last).lookupClass other = _ :=
      lookupClass_after_internClass internedToo (Nat.lt_succ_of_le (le_max_right first second))
    have coherent : (store.after operations last).Coherent := (reached.run _).coherent
    constructor
    · intro id_eq
      rw [id_eq] at found
      exact coherent.find?_injective found foundToo
    · intro key_eq
      rw [lookupClass, key_eq] at found
      exact Option.some_inj.mp (found.symm.trans foundToo)
  · intro moment later name spelling id le found key_eq
    obtain ⟨between, later_eq⟩ := store.after_of_le operations le
    have still : (store.after operations later).lookupClass spelling = some id := by
      rw [later_eq, lookupClass, key_eq]
      exact find?_run found between
    exact ⟨still, congrArg Prod.fst (internClass_of_lookupClass still)⟩

/-- Operations on the resumed store that intern a class in either spelling, before and after the
slot that is kept for it gets its node, and another class between. -/
def interleaved : List Operation :=
  [.internClass "q.B$C", .add (.classDecl { name := "q.B$C" }), .internClass "q.D",
    .define ⟨16⟩ (.classDecl { name := "q.B$C" }), .internClass "q.B.C"]

theorem class_identity_of_interleaved :
    resumed.Reached ∧ interleaved[0]? = some (.internClass "q.B$C") ∧
      interleaved[2]? = some (.internClass "q.D") ∧
      interleaved[4]? = some (.internClass "q.B.C") ∧
      (((resumed.after interleaved 0).internClass "q.B$C").1 =
          ((resumed.after interleaved 4).internClass "q.B.C").1 ↔
        ClassName.normalize "q.B$C" = ClassName.normalize "q.B.C") ∧
      (((resumed.after interleaved 2).internClass "q.D").1 =
          ((resumed.after interleaved 4).internClass "q.B.C").1 ↔
        ClassName.normalize "q.D" = ClassName.normalize "q.B.C") ∧
      0 ≤ 5 ∧ (resumed.after interleaved 0).lookupClass "q.B$C" = some ⟨16⟩ ∧
      ClassName.normalize "q.B.C" = ClassName.normalize "q.B$C" ∧
      (resumed.after interleaved 5).lookupClass "q.B.C" = some ⟨16⟩ ∧
        ((resumed.after interleaved 5).internClass "q.B.C").1 = ⟨16⟩ := by
  have reached : resumed.Reached := ⟨_, _, origin_lateClass_reindexed, rfl⟩
  have kept : resumed.reservations[(⟨16⟩ : TypeId)]? = some "q.B.C" := by decide +kernel
  have key_eq : ClassName.normalize "q.B$C" = "q.B.C" := by decide +kernel
  have looked : (resumed.after interleaved 0).lookupClass "q.B$C" = some ⟨16⟩ := by
    rw [after_zero, lookupClass, key_eq]
    exact (reached.coherent.reservation_waits _ _ kept).2
  have plain : ClassName.normalize "q.B.C" = "q.B.C" := by decide +kernel
  have same : ClassName.normalize "q.B.C" = ClassName.normalize "q.B$C" := plain.trans key_eq.symm
  obtain ⟨identity, stable⟩ := reached.class_identity interleaved
  exact ⟨reached, rfl, rfl, rfl, identity 0 4 _ _ rfl rfl, identity 2 4 _ _ rfl rfl,
    Nat.zero_le 5, looked, same, stable 0 5 _ _ _ (Nat.zero_le 5) looked same⟩

theorem lookupClass_eq_of_same {first second : String}
    (same : ClassName.same first second = true) :
    store.lookupClass first = store.lookupClass second := by
  rw [lookupClass, lookupClass, ClassName.same_iff.mp same]

theorem Coherent.same_of_lookupClass (coherent : store.Coherent) {first second : String}
    (found : store.lookupClass first = some id) (foundToo : store.lookupClass second = some id) :
    ClassName.same first second = true :=
  ClassName.same_iff.mpr (coherent.find?_injective found foundToo)

/-- Two spellings name the same class exactly if they become equal when every `$` is read as `.`.
This relates spellings as an equivalence, and a store looks up two spellings alike if they name the
same class, and under two identities, if any, if they do not. -/
theorem same_names_looked_up_alike :
    (∀ first second, ClassName.same first second = true ↔
      (first.map fun c => if c = '$' then '.' else c) =
        second.map fun c => if c = '$' then '.' else c) ∧
    (Equivalence fun first second => ClassName.same first second = true) ∧
    ∀ store : Store, store.Reached → ∀ first second,
      (ClassName.same first second = true →
        store.lookupClass first = store.lookupClass second) ∧
      (ClassName.same first second = false → ∀ id,
        store.lookupClass first = some id → store.lookupClass second ≠ some id) := by
  refine ⟨fun first second => ClassName.same_iff, ClassName.equivalence_same, ?_⟩
  intro store reached first second
  refine ⟨lookupClass_eq_of_same, fun apart id found foundToo => ?_⟩
  have same := reached.coherent.same_of_lookupClass found foundToo
  exact Bool.false_ne_true (apart.symm.trans same)

/-- The resumed store waits for one class and has another of its name, to which no name leads. -/
theorem same_names_looked_up_alike_of_resumed :
    resumed.Reached ∧ ClassName.same "q.B$C" "q.B.C" = true ∧
      resumed.lookupClass "q.B$C" = resumed.lookupClass "q.B.C" ∧
      ClassName.same "q.B$C" "q.B_C" = false ∧ resumed.lookupClass "q.B$C" = some ⟨16⟩ ∧
      resumed.lookupClass "q.B_C" ≠ some ⟨16⟩ := by
  have reached : resumed.Reached := ⟨_, _, origin_lateClass_reindexed, rfl⟩
  have binary : ClassName.normalize "q.B$C" = "q.B.C" := by decide +kernel
  have source : ClassName.normalize "q.B.C" = "q.B.C" := by decide +kernel
  have unlike : ClassName.normalize "q.B_C" ≠ "q.B.C" := by decide +kernel
  have same : ClassName.same "q.B$C" "q.B.C" = true :=
    ClassName.same_iff.mpr (binary.trans source.symm)
  have apart : ClassName.same "q.B$C" "q.B_C" = false :=
    Bool.eq_false_iff.mpr fun equal =>
      unlike ((ClassName.same_iff.mp equal).symm.trans binary)
  have kept : resumed.reservations[(⟨16⟩ : TypeId)]? = some "q.B.C" := by decide +kernel
  have looked : resumed.lookupClass "q.B$C" = some ⟨16⟩ := by
    rw [lookupClass, binary]
    exact (reached.coherent.reservation_waits _ _ kept).2
  obtain ⟨-, -, alike⟩ := same_names_looked_up_alike
  exact ⟨reached, same, (alike resumed reached _ _).1 same, apart, looked,
    (alike resumed reached _ _).2 apart _ looked⟩

end Store
end JavaTypes
