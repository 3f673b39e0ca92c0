import JavaTypes.Proofs.Building

/-!
# Slots, index and reservations agree

A store keeps its classes in three places: the slots, the index of their names and the names for
which slots are kept.  Every operation keeps the three in agreement, a refused one included.
-/

namespace JavaTypes
namespace Store

variable {store next : Store} {id other : TypeId} {node : Node} {key : String}

/-- Whether a slot is there and waits for its node. -/
def Vacant (store : Store) (id : TypeId) : Prop := store.nodes[id.raw]? = some none

instance : Decidable (store.Vacant id) :=
  inferInstanceAs (Decidable (store.nodes[id.raw]? = some none))

/-- Whether a slot holds a class of the given normalized name. -/
def HoldsClass (store : Store) (key : String) (id : TypeId) : Prop :=
  ∃ node, store.node? id = some node ∧ fulfills key node = true

/-- Whether one store has a given node in a slot and otherwise the slots of another store. -/
def Puts (store : Store) (id : TypeId) (node : Node) (next : Store) : Prop :=
  ∀ other : TypeId, next.nodes[other.raw]? =
    if other = id then some (some node) else store.nodes[other.raw]?

/-- The shared nodes are in their slots, and slots, index and reservations agree. -/
structure Coherent (store : Store) : Prop where
  unknown_slot : store.node? unknown = some .unknown
  primitive_slot : ∀ kind, store.node? (primitive kind) = some (.primitive kind)
  /-- A registered name leads to its class or to the slot that is kept for it. -/
  index_leads : ∀ key id, store.index.find? key = some id →
    store.HoldsClass key id ∨ store.Vacant id ∧ store.reservations[id]? = some key
  reservation_waits : ∀ id key, store.reservations[id]? = some key →
    store.Vacant id ∧ store.index.find? key = some id
  class_known : ∀ id key, store.HoldsClass key id → store.index.find? key ≠ none

theorem node?_eq_some : store.node? id = some node ↔ store.nodes[id.raw]? = some (some node) := by
  simp [node?, Option.join_eq_some_iff]

theorem Vacant.node?_eq_none (vacant : store.Vacant id) : store.node? id = none := by
  rw [node?, vacant, Option.join_some]

theorem nodes_nextId : store.nodes[store.nextId.raw]? = none := by simp [nextId, size]

theorem eq_nextId : id = store.nextId ↔ id.raw = store.nodes.size := by
  obtain ⟨raw⟩ := id
  simp [nextId, size]

theorem Puts.node?_self (puts : store.Puts id node next) : next.node? id = some node := by
  rw [node?, puts, if_pos rfl, Option.join_some]

theorem Puts.node?_of_ne (puts : store.Puts id node next) (ne : other ≠ id) :
    next.node? other = store.node? other := by
  rw [node?, puts, if_neg ne, node?]

/-- What is in a slot stays there when another slot without a node gets one. -/
theorem Puts.stays {present : Node} (puts : store.Puts id node next) (free : store.node? id = none)
    (found : store.node? other = some present) : next.node? other = some present := by
  rw [puts.node?_of_ne, found]
  rintro rfl
  simp [free] at found

theorem Puts.vacant (puts : store.Puts id node next) (ne : other ≠ id)
    (waits : store.Vacant other) : next.Vacant other := by
  rw [Vacant, puts, if_neg ne]
  exact waits

theorem find?_register (index : NameIndex) (name : String) (id : TypeId) (key : String) :
    (index.register name id).find? key =
      (index.find? key).or (if name = key then some id else none) := by
  by_cases own : name = key
  · subst own
    rw [NameIndex.find?_register_self, if_pos rfl]
    cases index.find? name <;> rfl
  · rw [NameIndex.find?_register_of_ne _ _ (Ne.symm own), if_neg own, Option.or_none]

theorem find?_registered (index : NameIndex) (id : TypeId) (node : Node) (key : String) :
    (registered index id node).find? key =
      (index.find? key).or (if fulfills key node then some id else none) := by
  cases node with
  | classDecl decl => simp [registered, fulfills, find?_register]
  | primitive _ | unknown | parameterized _ _ | annotationUse _ _ | array _ | typeVariable _
  | intersection _ | variableDecl _ | methodDecl _ | multiCatch _ =>
      simp [registered, fulfills]

theorem getElem?_erase_reservations (id other : TypeId) :
    (store.reservations.erase id)[other]? =
      if other = id then none else store.reservations[other]? := by
  by_cases same : other = id
  · simp [same]
  · simp [Std.ExtTreeMap.getElem?_erase, same, Ne.symm same]

theorem puts_set {index : NameIndex} {reservations : Std.ExtTreeMap TypeId String}
    (inside : id.raw < store.nodes.size) (node : Node) :
    store.Puts id node
      ⟨store.nodes.setIfInBounds id.raw (some node), index, reservations⟩ := by
  intro other
  by_cases same : other = id
  · subst same
    simp [inside]
  · have ne : id.raw ≠ other.raw := fun raws => same (congrArg TypeId.mk raws.symm)
    simp [same, ne]

theorem puts_push (node : Node) : store.Puts store.nextId node (store.push node).2 := by
  intro other
  simp only [push, Array.getElem?_push, eq_nextId]

theorem node?_reserve (id : TypeId) : store.reserve.2.node? id = store.node? id := by
  simp only [node?, reserve, Array.getElem?_push]
  split
  next last => simp [last]
  next => rfl

theorem node?_internClass (store : Store) (name : String) (id : TypeId) :
    (store.internClass name).2.node? id = store.node? id := by
  unfold internClass
  cases store.lookupClass name with
  | some found => rfl
  | none => exact node?_reserve id

theorem index_listMethod (store : Store) (owner method : TypeId) :
    (store.listMethod owner method).index = store.index := by
  unfold listMethod
  split <;> rfl

theorem reservations_listMethod (store : Store) (owner method : TypeId) :
    (store.listMethod owner method).reservations = store.reservations := by
  unfold listMethod
  split <;> rfl

theorem puts_listMethod {owner : TypeId} {decl : ClassDecl} (method : TypeId)
    (present : store.node? owner = some (.classDecl decl)) :
    store.Puts owner (.classDecl { decl with methods := decl.methods ++ [method] })
      (store.listMethod owner method) := by
  have inside : owner.raw < store.nodes.size :=
    (Array.getElem?_eq_some_iff.mp (node?_eq_some.mp present)).1
  rw [listMethod, present]
  exact puts_set inside _

theorem listMethod_of_no_class {owner method : TypeId}
    (absent : ¬ ∃ decl, store.node? owner = some (.classDecl decl)) :
    store.listMethod owner method = store := by
  rw [listMethod]
  split
  next decl present => exact absurd ⟨decl, present⟩ absent
  next => rfl

/-- A node is put into a vacant slot that is kept for nothing else, and only there. -/
theorem defineError?_eq_none_iff :
    store.defineError? id node = none ↔
      store.Vacant id ∧ ∀ key, store.reservations[id]? = some key → fulfills key node = true := by
  simp only [defineError?, Vacant]
  split
  case h_1 outside => simp [outside]
  case h_2 held => simp [held]
  case h_3 vacant => cases kept : store.reservations[id]? <;> simp [vacant]

/-- A definition is accepted for a vacant slot that is kept for nothing else, and only there. -/
theorem define_eq_ok {defined : Store} (done : store.define id node = .ok defined) :
    store.Vacant id ∧
      (∀ key, store.reservations[id]? = some key → fulfills key node = true) ∧
      defined =
        { nodes := store.nodes.setIfInBounds id.raw (some node)
          index := registered store.index id node
          reservations := store.reservations.erase id } := by
  rw [define_eq] at done
  cases refused : store.defineError? id node with
  | some error => simp [refused] at done
  | none =>
      rw [refused] at done
      obtain ⟨vacant, fits⟩ := defineError?_eq_none_iff.mp refused
      exact ⟨vacant, fits, (Except.ok.inj done).symm⟩

theorem puts_define (done : store.define id node = .ok next) : store.Puts id node next := by
  obtain ⟨vacant, -, rfl⟩ := define_eq_ok done
  exact puts_set (Array.getElem?_eq_some_iff.mp vacant).1 node

namespace Coherent

/-- Coherence is kept when a slot without a node gets one, if the slot is not kept for something
else and the index and the reservations follow. -/
theorem place (coherent : store.Coherent) (free : store.node? id = none)
    (fits : ∀ key, store.reservations[id]? = some key → fulfills key node = true)
    (puts : store.Puts id node next) (index_eq : next.index = registered store.index id node)
    (reservations_eq : ∀ other : TypeId, next.reservations[other]? =
      if other = id then none else store.reservations[other]?) :
    next.Coherent := by
  constructor
  case unknown_slot => exact puts.stays free coherent.unknown_slot
  case primitive_slot => exact fun kind => puts.stays free (coherent.primitive_slot kind)
  case index_leads =>
    intro key other found
    rw [index_eq, find?_registered, Option.or_eq_some_iff] at found
    obtain old | ⟨-, new⟩ := found
    · obtain ⟨present, found, named⟩ | ⟨vacant, kept⟩ := coherent.index_leads key other old
      · exact Or.inl ⟨present, puts.stays free found, named⟩
      · by_cases same : other = id
        · subst same
          -- The slot was kept for this name, so that its node has to be the class.
          exact Or.inl ⟨node, puts.node?_self, fits key kept⟩
        · exact Or.inr ⟨puts.vacant same vacant, by rw [reservations_eq, if_neg same, kept]⟩
    · obtain ⟨named, same⟩ := Option.ite_none_right_eq_some.mp new
      obtain rfl := Option.some_inj.mp same
      exact Or.inl ⟨node, puts.node?_self, named⟩
  case reservation_waits =>
    intro other key kept
    rw [reservations_eq, Option.ite_none_left_eq_some] at kept
    obtain ⟨ne, kept⟩ := kept
    obtain ⟨vacant, found⟩ := coherent.reservation_waits other key kept
    exact ⟨puts.vacant ne vacant, by rw [index_eq, find?_registered, found, Option.some_or]⟩
  case class_known =>
    rintro other key ⟨present, found, named⟩
    rw [index_eq, find?_registered]
    by_cases same : other = id
    · subst same
      obtain rfl : node = present := by simpa [puts.node?_self] using found
      simp [named]
    · have known := coherent.class_known other key
        ⟨present, (puts.node?_of_ne same).symm.trans found, named⟩
      simp [known]

theorem unreserved (coherent : store.Coherent) (notVacant : ¬ store.Vacant id) :
    store.reservations[id]? = none :=
  Option.eq_none_iff_forall_ne_some.mpr fun key kept =>
    notVacant (coherent.reservation_waits id key kept).1

theorem push (coherent : store.Coherent) (node : Node) : (store.push node).2.Coherent := by
  have outside : store.nodes[store.nextId.raw]? = none := nodes_nextId
  have free : store.node? store.nextId = none := by simp [node?, outside]
  have unreserved : store.reservations[store.nextId]? = none :=
    coherent.unreserved (by simp [Vacant, outside])
  refine coherent.place free (by simp [unreserved]) (puts_push node) rfl fun other => ?_
  by_cases same : other = store.nextId
  · simp [Store.push, same, unreserved]
  · simp [Store.push, same]

theorem add (coherent : store.Coherent) (node : Node) : (store.add node).2.Coherent := by
  cases node with
  | unknown | primitive _ => exact coherent
  | classDecl _ | parameterized _ _ | annotationUse _ _ | array _ | typeVariable _
  | intersection _ | variableDecl _ | methodDecl _ | multiCatch _ => exact coherent.push _

/-- Coherence is kept by what leaves the index, the reservations and the names of the classes as
they are. -/
theorem carry (coherent : store.Coherent) (index_eq : next.index = store.index)
    (reservations_eq : next.reservations = store.reservations)
    (plain : ∀ id node, (∀ key, fulfills key node = false) → store.node? id = some node →
      next.node? id = some node)
    (holds : ∀ key id, next.HoldsClass key id ↔ store.HoldsClass key id)
    (vacant : ∀ id, store.Vacant id → next.Vacant id) : next.Coherent := by
  constructor
  case unknown_slot => exact plain _ _ (fun _ => rfl) coherent.unknown_slot
  case primitive_slot => exact fun kind => plain _ _ (fun _ => rfl) (coherent.primitive_slot kind)
  case index_leads =>
    intro key id found
    rw [index_eq] at found
    rw [reservations_eq]
    exact (coherent.index_leads key id found).imp (holds key id).mpr (And.imp_left (vacant id))
  case reservation_waits =>
    intro id key kept
    rw [reservations_eq] at kept
    rw [index_eq]
    exact (coherent.reservation_waits id key kept).imp_left (vacant id)
  case class_known =>
    intro id key held
    rw [index_eq]
    exact coherent.class_known id key ((holds key id).mp held)

theorem reserve (coherent : store.Coherent) : store.reserve.2.Coherent := by
  refine coherent.carry rfl rfl (fun id _ _ present => (node?_reserve id).trans present) ?_ ?_
  · simp [HoldsClass, node?_reserve]
  · intro id waits
    have ne : id.raw ≠ store.nodes.size := by
      intro last
      simp [Vacant, last] at waits
    simpa [Vacant, Store.reserve, Array.getElem?_push, ne] using waits

theorem define {defined : Store} (coherent : store.Coherent)
    (done : store.define id node = .ok defined) : defined.Coherent := by
  have puts := puts_define done
  obtain ⟨vacant, fits, rfl⟩ := define_eq_ok done
  exact coherent.place vacant.node?_eq_none fits puts rfl (getElem?_erase_reservations id)

/-- Coherence is kept when a vacant slot is kept for a class that no name leads to yet. -/
theorem keep (coherent : store.Coherent) (vacant : store.Vacant id)
    (free : store.reservations[id]? = none) (fresh : store.index.find? key = none) :
    Coherent
      { store with
        index := store.index.register key id
        reservations := store.reservations.insert id key } := by
  constructor
  case unknown_slot => exact coherent.unknown_slot
  case primitive_slot => exact coherent.primitive_slot
  case index_leads =>
    intro name other found
    rw [find?_register, Option.or_eq_some_iff] at found
    obtain old | ⟨-, new⟩ := found
    · refine (coherent.index_leads name other old).imp_right fun ⟨waits, kept⟩ => ⟨waits, ?_⟩
      have ne : id ≠ other := by
        rintro rfl
        simp [free] at kept
      simpa [Std.ExtTreeMap.getElem?_insert, ne] using kept
    · obtain ⟨rfl, same⟩ := Option.ite_none_right_eq_some.mp new
      obtain rfl := Option.some_inj.mp same
      exact Or.inr ⟨vacant, by simp⟩
  case reservation_waits =>
    intro other name kept
    rw [find?_register]
    by_cases same : id = other
    · subst same
      obtain rfl : key = name := by simpa using kept
      exact ⟨vacant, by simp [fresh]⟩
    · have old : store.reservations[other]? = some name := by
        simpa [Std.ExtTreeMap.getElem?_insert, same] using kept
      exact (coherent.reservation_waits other name old).imp_right fun found => by simp [found]
  case class_known =>
    intro other name held
    have known := coherent.class_known other name held
    simp [find?_register, known]

theorem internClass (coherent : store.Coherent) (name : String) :
    (store.internClass name).2.Coherent := by
  unfold Store.internClass
  cases looked : store.lookupClass name with
  | some id => exact coherent
  | none =>
      have vacant : store.reserve.2.Vacant store.nextId := by
        simp [Vacant, Store.reserve, nextId, size]
      have free : store.reserve.2.reservations[store.nextId]? = none :=
        coherent.unreserved (by simp [Vacant, nodes_nextId])
      exact coherent.reserve.keep vacant free looked

/-- Coherence is kept when a class takes the place of another one of its name. -/
theorem replaceClass {decl changed : ClassDecl} (coherent : store.Coherent)
    (present : store.node? id = some (.classDecl decl)) (name_eq : changed.name = decl.name)
    (puts : store.Puts id (.classDecl changed) next) (index_eq : next.index = store.index)
    (reservations_eq : next.reservations = store.reservations) : next.Coherent := by
  refine coherent.carry index_eq reservations_eq ?_ ?_ ?_
  · intro other node nameless found
    rw [puts.node?_of_ne, found]
    rintro rfl
    obtain rfl : node = .classDecl decl := by simpa [found] using present
    have own := nameless (ClassName.normalize decl.name)
    simp [fulfills] at own
  · intro key other
    by_cases same : other = id
    · subst same
      simp [HoldsClass, puts.node?_self, present, fulfills, name_eq]
    · simp [HoldsClass, puts.node?_of_ne same]
  · intro other waits
    refine puts.vacant ?_ waits
    rintro rfl
    simp [waits.node?_eq_none] at present

theorem listMethod (coherent : store.Coherent) (owner method : TypeId) :
    (store.listMethod owner method).Coherent := by
  by_cases present : ∃ decl, store.node? owner = some (.classDecl decl)
  · obtain ⟨decl, present⟩ := present
    have puts := puts_listMethod method present
    exact coherent.replaceClass present (by rfl) puts (index_listMethod store owner method)
      (reservations_listMethod store owner method)
  · rw [listMethod_of_no_class present]
    exact coherent

theorem perform (coherent : store.Coherent) (operation : Operation) :
    (store.perform operation).2.Coherent := by
  cases operation with
  | add node => exact coherent.add node
  | reserve => exact coherent.reserve
  | define id node =>
      rw [Store.perform_define]
      cases done : store.define id node with
      | ok defined => exact coherent.define done
      | error _ => exact coherent
  | internClass name => exact coherent.internClass name
  | addMethod decl => exact (coherent.add (.methodDecl decl)).listMethod _ _

/-- Every run of operations keeps slots, index and reservations in agreement. -/
theorem run (coherent : store.Coherent) (operations : List Operation) :
    (store.run operations).Coherent := by
  induction operations generalizing store with
  | nil => exact coherent
  | cons operation operations ih => exact ih (coherent.perform operation)

end Coherent

theorem not_fulfills_sharedNodes (key : String) :
    ∀ slot ∈ sharedNodes, slot.any (fulfills key) = false := by
  simp [sharedNodes, fulfills]

theorem coherent_empty : empty.Coherent := by
  constructor
  case unknown_slot => rfl
  case primitive_slot => intro kind; cases kind <;> rfl
  case index_leads => simp [empty, NameIndex.find?_empty]
  case reservation_waits => simp [empty]
  case class_known =>
    rintro id key ⟨node, present, named⟩
    have shared : some node ∈ sharedNodes :=
      List.mem_toArray.mp (Array.mem_of_getElem? (node?_eq_some.mp present))
    have nameless := not_fulfills_sharedNodes key (some node) shared
    simp [named] at nameless

/-- Slots, index and reservations of every store that is built agree. -/
theorem Built.coherent (built : store.Built) : store.Coherent := by
  obtain ⟨operations, rfl⟩ := built.exists_eq_run
  exact coherent_empty.run operations

end Store
end JavaTypes
