import JavaTypes.Proofs.NameSearch

/-!
# What a test is asked

A test of types is asked about the types that a source leads to, in depth-first order, until it
accepts one.  What it is asked depends on the test only in where it ends: a test that accepts nothing
is asked the whole sequence, and any other a part of the same sequence from its beginning.
-/

namespace JavaTypes
namespace Inquiry

variable {α : Type} {sequence : List α}

/-- Whether a test that was asked some items before, the latest first, refuses others that it is
asked after them, one by one. -/
def Refuses (accepts : List α → α → Bool) : List α → List α → Prop
  | _, [] => True
  | before, item :: items => accepts before item = false ∧ Refuses accepts (item :: before) items

/-- A test is asked the items up to the first that it accepts, or all of them if it accepts none. -/
theorem along_of_ok (accepts : List α → α → Bool) (before : List α)
    {items : LazyList (Except Indeterminate α)} (sound : items.toList = sequence.map .ok) :
    (∃ earlier item later, sequence = earlier ++ item :: later ∧ Refuses accepts before earlier ∧
        accepts (earlier.reverse ++ before) item = true ∧
        along accepts before items = ⟨before.reverse ++ (earlier ++ [item]), .ok true⟩) ∨
      Refuses accepts before sequence ∧
        along accepts before items = ⟨before.reverse ++ sequence, .ok false⟩ := by
  induction items generalizing before sequence with
  | nil =>
      obtain rfl := List.map_eq_nil_iff.mp sound.symm
      exact Or.inr ⟨trivial, by simp [along]⟩
  | cons head rest ih =>
      obtain ⟨item, others, rfl, rfl, rest_sound⟩ := List.map_eq_cons_iff.mp sound.symm
      rw [along]
      cases answer : accepts before item with
      | true => exact Or.inl ⟨[], item, others, rfl, trivial, answer, by simp⟩
      | false =>
          rw [if_neg Bool.false_ne_true]
          rcases ih () (item :: before) rest_sound.symm with
            ⟨earlier, last, later, rfl, refused, accepted, along_eq⟩ | ⟨refused, along_eq⟩
          · exact Or.inl ⟨item :: earlier, last, later, rfl, ⟨answer, refused⟩,
              by simpa using accepted, by simp [along_eq]⟩
          · exact Or.inr ⟨⟨answer, refused⟩, by simp [along_eq]⟩

/-- A test that accepts nothing is asked about everything. -/
theorem along_of_never {items : LazyList (Except Indeterminate α)}
    (sound : items.toList = sequence.map .ok) :
    along (fun _ _ => false) [] items = ⟨sequence, .ok false⟩ := by
  rcases along_of_ok (fun _ _ => false) [] sound with
    ⟨_, _, _, _, _, accepted, _⟩ | ⟨-, along_eq⟩
  · cases accepted
  · exact along_eq

end Inquiry

namespace Graph

variable {graph : Graph} {source id : TypeId}

/-- Whether a test of types is asked about a type: about primitives and nominal types. -/
def isTested (graph : Graph) (id : TypeId) : Bool :=
  (graph.primitive? id).isSome || (graph.node id).any Node.isNominal

theorem typeAsked_of_defined (defined : graph.node id ≠ none) :
    graph.typeAsked id = if graph.isTested id then [.ok id] else [] := by
  obtain ⟨node, node_eq⟩ := Option.ne_none_iff_exists'.mp defined
  rw [typeAsked, isTested, primitive?, node_eq]
  cases node <;> rfl

theorem isTested_of_nominal {node : Node} (node_eq : graph.node id = some node)
    (nominal : node.isNominal = true) : graph.isTested id = true := by
  simp [isTested, node_eq, nominal]

theorem ancestors_of_nominal {node : Node} (node_eq : graph.node id = some node)
    (nominal : node.isNominal = true) : graph.ancestors id = some (graph.supertypes id) := by
  rw [ancestors, node_eq]
  cases node with
  | classDecl | parameterized | annotationUse => rfl
  | _ => cases nominal

/-- Where everything that the source leads to is defined, the items of an inquiry are the types that
a test is asked about. -/
theorem toList_typesAsked
    (defined : ∀ id, Relation.ReflTransGen graph.TakesNamesOf source id → graph.node id ≠ none) :
    ((graph.walk graph.ancestors source).flatMap graph.typeAsked).toList =
      ((graph.walk graph.ancestors source).toList.filter graph.isTested).map .ok := by
  have each : ∀ visited ∈ (graph.walk graph.ancestors source).toList,
      graph.typeAsked visited = if graph.isTested visited then [.ok visited] else [] :=
    fun visited member => typeAsked_of_defined (defined visited (mem_walk_iff_takesNamesOf.mp member))
  rw [LazyList.toList_flatMap, List.flatMap_congr each]
  induction (graph.walk graph.ancestors source).toList with
  | nil => rfl
  | cons head rest ih =>
      rw [List.flatMap_cons, ih, List.filter_cons]
      split <;> rfl

theorem mem_filter_isTested :
    id ∈ (graph.walk graph.ancestors source).toList.filter graph.isTested ↔
      Relation.ReflTransGen graph.TakesNamesOf source id ∧ graph.isTested id = true := by
  rw [List.mem_filter, mem_walk_iff_takesNamesOf]

theorem depthFirst_walk_ancestors :
    DepthFirst graph.ancestors [] [source] (graph.walk graph.ancestors source).toList :=
  depthFirst_walk ancestors_defined

/-- A nominal type that the source leads to is among what a test is asked about, and only once. -/
theorem count_tested {node : Node} (reaches : Relation.ReflTransGen graph.TakesNamesOf source id)
    (node_eq : graph.node id = some node) (nominal : node.isNominal = true) :
    ((graph.walk graph.ancestors source).toList.filter graph.isTested).count id = 1 := by
  have branching : graph.ancestors id ≠ none := by
    rw [ancestors_of_nominal node_eq nominal]
    exact Option.some_ne_none _
  rw [List.count_filter (isTested_of_nominal node_eq nominal)]
  refine le_antisymm (depthFirst_walk_ancestors.count_le_one branching) ?_
  exact List.count_pos_iff.mpr (mem_walk_iff_takesNamesOf.mpr reaches)

end Graph

namespace Handle

theorem ask_assignableToPredicate {handle : Handle} {accepts : List TypeId → TypeId → Bool}
    {source : TypeId} {asked : List TypeId} {holds : Bool}
    (ended : handle.env.toGraph.askTypes accepts source = ⟨asked, .ok holds⟩) :
    (handle.ask (.assignableToPredicate accepts source)).1.askedTypes = asked ∧
      (handle.ask (.assignableToPredicate accepts source)).1.answer = .ok (.truth holds) := by
  simp [ask, Query.evaluate, Evaluation.ofTypes, ended, Except.map]

/-- Where everything that a source leads to is defined, a test that accepts nothing is asked about
primitives and nominal types in depth-first order, about each nominal type exactly once.  Any other
test, whatever it remembers, is asked the same up to the first type that it accepts, and the source
fits if there is one. -/
theorem predicate_asked_in_order (handle : Handle) (source : TypeId)
    (defined : ∀ id, Relation.ReflTransGen handle.env.toGraph.TakesNamesOf source id →
      handle.env.node id ≠ none) :
    let graph := handle.env.toGraph
    let reply accepts := (handle.ask (.assignableToPredicate accepts source)).1
    let sequence := (reply fun _ _ => false).askedTypes
    (∃ order, Graph.DepthFirst graph.ancestors [] [source] order) ∧
    (∀ order, Graph.DepthFirst graph.ancestors [] [source] order →
      sequence = order.filter graph.isTested) ∧
    (∀ id, id ∈ sequence ↔
      Relation.ReflTransGen graph.TakesNamesOf source id ∧ graph.isTested id = true) ∧
    (∀ id node, Relation.ReflTransGen graph.TakesNamesOf source id → graph.node id = some node →
      node.isNominal = true → sequence.count id = 1) ∧
    ∀ accepts,
      (∃ earlier id later, sequence = earlier ++ id :: later ∧
        Inquiry.Refuses accepts [] earlier ∧ accepts earlier.reverse id = true ∧
        (reply accepts).askedTypes = earlier ++ [id] ∧
        (reply accepts).answer = .ok (.truth true)) ∨
      Inquiry.Refuses accepts [] sequence ∧ (reply accepts).askedTypes = sequence ∧
        (reply accepts).answer = .ok (.truth false) := by
  intro graph reply sequence
  have sound := Graph.toList_typesAsked defined
  have sequence_eq : sequence = (graph.walk graph.ancestors source).toList.filter graph.isTested :=
    (ask_assignableToPredicate (Inquiry.along_of_never sound)).1
  rw [sequence_eq]
  refine ⟨⟨_, Graph.depthFirst_walk_ancestors⟩, fun order listed => ?_,
    fun id => Graph.mem_filter_isTested,
    fun id node reaches node_eq nominal => Graph.count_tested reaches node_eq nominal,
    fun accepts => ?_⟩
  · rw [listed.unique Graph.depthFirst_walk_ancestors]
  · rcases Inquiry.along_of_ok accepts [] sound with
      ⟨earlier, id, later, split, refused, accepted, along_eq⟩ | ⟨refused, along_eq⟩
    · obtain ⟨asked_eq, answer_eq⟩ := ask_assignableToPredicate along_eq
      rw [List.append_nil] at accepted
      exact Or.inl ⟨earlier, id, later, split, refused, accepted, asked_eq, answer_eq⟩
    · obtain ⟨asked_eq, answer_eq⟩ := ask_assignableToPredicate along_eq
      exact Or.inr ⟨refused, asked_eq, answer_eq⟩

/-- A handle for a type variable with the bounds `int`, `A` and `int`, where `A` and `B` extend each
other and implement one interface. -/
def mutualBounds : Handle where
  env := (Store.empty.run
    [.reserve, .add (.classDecl { name := "p.Task", kind := .interface }),
      .add (.classDecl { name := "p.B", supertype := some ⟨13⟩, interfaces := [⟨14⟩] }),
      .define ⟨13⟩ (.classDecl { name := "p.A", supertype := some ⟨15⟩, interfaces := [⟨14⟩] }),
      .add (.typeVariable
        { name := "T", bounds := [Store.primitive .int, ⟨13⟩, Store.primitive .int] })]).environment

/-- A test that accepts what it has been asked about before accepts `int` when it comes again. -/
theorem predicate_asked_in_order_of_mutualBounds :
    let graph := mutualBounds.env.toGraph
    let reply accepts := (mutualBounds.ask (.assignableToPredicate accepts ⟨16⟩)).1
    let sequence := (reply fun _ _ => false).askedTypes
    let remembers (before : List TypeId) (id : TypeId) := before.contains id
    (∀ id, Relation.ReflTransGen graph.TakesNamesOf ⟨16⟩ id → graph.node id ≠ none) ∧
      sequence = [Store.primitive .int, ⟨13⟩, ⟨15⟩, ⟨14⟩, Store.primitive .int] ∧
      sequence.count ⟨13⟩ = 1 ∧
      ∃ earlier id later, sequence = earlier ++ id :: later ∧
        Inquiry.Refuses remembers [] earlier ∧ remembers earlier.reverse id = true ∧
        (reply remembers).askedTypes = earlier ++ [id] ∧
        (reply remembers).answer = .ok (.truth true) := by
  intro graph reply sequence remembers
  have visited_defined : ∀ id ∈ (graph.walk graph.ancestors ⟨16⟩).toList, graph.node id ≠ none := by
    decide +kernel
  have defined : ∀ id, Relation.ReflTransGen graph.TakesNamesOf ⟨16⟩ id → graph.node id ≠ none :=
    fun id reaches => visited_defined id (Graph.mem_walk_iff_takesNamesOf.mpr reaches)
  have accepted : (reply remembers).answer = .ok (.truth true) := by decide +kernel
  obtain ⟨-, -, -, once, ends⟩ := predicate_asked_in_order mutualBounds ⟨16⟩ defined
  refine ⟨defined, by decide +kernel, ?_, (ends remembers).resolve_right fun refused => ?_⟩
  · exact once ⟨13⟩ _ (Graph.mem_walk_iff_takesNamesOf.mp (by decide +kernel)) rfl rfl
  · cases accepted.symm.trans refused.2.2

end Handle
end JavaTypes
