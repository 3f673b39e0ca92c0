import JavaTypes.Proofs.Accuracy
import JavaTypes.Proofs.Naming
import JavaTypes.Store.Operation

/-!
# Well-formed types

A type is well formed exactly if everything that it is built from is sound, at any distance and
however the parts run in circles.  A type that is met again is passed over while its own parts are
still pending, so that nothing is lost and the order in which parts are followed does not matter.
A comparison of types follows more than those parts: what methods throw, and what annotations are
written with.  Where it meets a reference that leads nowhere, it has gone through one of these.
-/

namespace JavaTypes
namespace Graph

/-- Whether one type is built from another: a parameterized type from its base and arguments, an
array from its element, a type variable from its bounds, a variable from its type and owner, the
type of a multi-catch parameter from its alternatives, and a method from its result, its declaring
type and its parameters. -/
inductive BuiltFrom (graph : Graph) (id : TypeId) : TypeId → Prop where
  | base {base : TypeId} {arguments : List TypeId}
      (node_eq : graph.node id = some (.parameterized base arguments)) : BuiltFrom graph id base
  | argument {base next : TypeId} {arguments : List TypeId}
      (node_eq : graph.node id = some (.parameterized base arguments))
      (listed : next ∈ arguments) : BuiltFrom graph id next
  | element {element : TypeId} (node_eq : graph.node id = some (.array element)) :
      BuiltFrom graph id element
  | variableBound {decl : TypeVariable} {next : TypeId}
      (node_eq : graph.node id = some (.typeVariable decl)) (listed : next ∈ decl.bounds) :
      BuiltFrom graph id next
  | variableType {decl : VariableDecl} (node_eq : graph.node id = some (.variableDecl decl)) :
      BuiltFrom graph id decl.type
  | owner {decl : VariableDecl} {owner : TypeId}
      (node_eq : graph.node id = some (.variableDecl decl)) (owned : decl.owner = some owner) :
      BuiltFrom graph id owner
  | alternative {alternatives : List TypeId} {next : TypeId}
      (node_eq : graph.node id = some (.multiCatch alternatives))
      (listed : next ∈ alternatives) : BuiltFrom graph id next
  | result {decl : MethodDecl} (node_eq : graph.node id = some (.methodDecl decl)) :
      BuiltFrom graph id decl.returnType
  | declaring {decl : MethodDecl} (node_eq : graph.node id = some (.methodDecl decl)) :
      BuiltFrom graph id decl.declaringType
  | parameter {decl : MethodDecl} {next : TypeId}
      (node_eq : graph.node id = some (.methodDecl decl)) (listed : next ∈ decl.parameterTypes) :
      BuiltFrom graph id next

/-- Whether a type is defined and known, and has an owner if it is a variable. -/
def Sound (graph : Graph) (id : TypeId) : Prop :=
  ∃ node, graph.node id = some node ∧ node ≠ .unknown ∧
    ∀ decl, node = .variableDecl decl → ∃ owner, decl.owner = some owner

variable {graph : Graph} {order : TypeId → Option (List TypeId)} {type id next : TypeId}
  {node : Node}

theorem parts_defined (id : TypeId) (references : List TypeId)
    (branching : graph.parts id = some references) : graph.node id ≠ none := by
  intro undefined
  simp [parts, undefined] at branching

theorem leads_parts : Leads graph.parts = graph.BuiltFrom := by
  funext id next
  rw [eq_iff_iff]
  constructor
  · rintro ⟨references, branching, listed⟩
    obtain ⟨node, node_eq, rfl⟩ := Option.map_eq_some_iff.mp branching
    cases node with
    | primitive kind => cases listed
    | unknown => cases listed
    | classDecl decl => cases listed
    | annotationUse type values => cases listed
    | intersection bounds => cases listed
    | parameterized base arguments =>
        rcases List.mem_cons.mp listed with rfl | listed
        · exact .base node_eq
        · exact .argument node_eq listed
    | array element => exact List.mem_singleton.mp listed ▸ .element node_eq
    | typeVariable decl => exact .variableBound node_eq listed
    | variableDecl decl =>
        rcases List.mem_cons.mp listed with rfl | listed
        · exact .variableType node_eq
        · exact .owner node_eq (Option.mem_toList.mp listed)
    | multiCatch alternatives => exact .alternative node_eq listed
    | methodDecl decl =>
        rcases List.mem_cons.mp listed with rfl | listed
        · exact .result node_eq
        · rcases List.mem_cons.mp listed with rfl | listed
          · exact .declaring node_eq
          · exact .parameter node_eq listed
  · intro built
    have branching {node : Node} (node_eq : graph.node id = some node) :
        graph.parts id = (some node).map _ := congrArg (Option.map _) node_eq
    cases built with
    | base node_eq => exact ⟨_, branching node_eq, List.mem_cons_self⟩
    | argument node_eq listed => exact ⟨_, branching node_eq, List.mem_cons_of_mem _ listed⟩
    | element node_eq => exact ⟨_, branching node_eq, List.mem_singleton_self _⟩
    | variableBound node_eq listed => exact ⟨_, branching node_eq, listed⟩
    | variableType node_eq => exact ⟨_, branching node_eq, List.mem_cons_self⟩
    | owner node_eq owned =>
        exact ⟨_, branching node_eq, List.mem_cons_of_mem _ (Option.mem_toList.mpr owned)⟩
    | alternative node_eq listed => exact ⟨_, branching node_eq, listed⟩
    | result node_eq => exact ⟨_, branching node_eq, List.mem_cons_self⟩
    | declaring node_eq =>
        exact ⟨_, branching node_eq, List.mem_cons_of_mem _ List.mem_cons_self⟩
    | parameter node_eq listed =>
        exact ⟨_, branching node_eq, List.mem_cons_of_mem _ (List.mem_cons_of_mem _ listed)⟩

theorem isSound_iff : graph.isSound id = true ↔ graph.Sound id := by
  rw [isSound, Sound]
  split
  case h_1 node_eq => simp [node_eq]
  case h_2 node_eq => simp [node_eq]
  case h_3 decl node_eq => simp [node_eq, Option.isSome_iff_exists]
  case h_4 node known other_form node_eq =>
    refine iff_of_true rfl ⟨node, node_eq, ?_, ?_⟩
    · rintro rfl
      exact known rfl
    · rintro decl rfl
      exact absurd rfl (other_form decl)

theorem leads_of_perm (same : ∀ id, Option.Rel List.Perm (order id) (graph.parts id)) :
    Leads order = graph.BuiltFrom := by
  rw [← leads_parts]
  funext id next
  rw [eq_iff_iff, Leads, Leads]
  have related := same id
  generalize order id = reordered, graph.parts id = listed at related ⊢
  cases related with
  | none => exact Iff.rfl
  | some permuted => simp [permuted.mem_iff]

theorem defined_of_perm (same : ∀ id, Option.Rel List.Perm (order id) (graph.parts id))
    (id : TypeId) (references : List TypeId) (branching : order id = some references) :
    graph.node id ≠ none := by
  have related := same id
  generalize parts_eq : graph.parts id = listed at related
  rw [branching] at related
  cases related with
  | some permuted => exact parts_defined id _ parts_eq

theorem all_walk_iff (same : ∀ id, Option.Rel List.Perm (order id) (graph.parts id)) :
    (graph.walk order type).all graph.isSound = true ↔
      ∀ id, Relation.ReflTransGen graph.BuiltFrom type id → graph.Sound id := by
  simp only [LazyList.all_eq_all_toList, List.all_eq_true, mem_walk_iff (defined_of_perm same),
    leads_of_perm same, isSound_iff]

theorem isWellFormed_iff : graph.isWellFormed type = true ↔
    ∀ id, Relation.ReflTransGen graph.BuiltFrom type id → graph.Sound id := by
  refine all_walk_iff fun id => ?_
  cases graph.parts id with
  | none => exact .none
  | some listed => exact .some (.refl listed)

/-- On every graph, a type is well formed exactly if everything that it is built from is sound; the
search for it comes to its own end, and it may follow the parts of each type in any order. -/
theorem isWellFormed_iff_builtFrom (type : TypeId) :
    (graph.isWellFormed type = true ↔
      ∀ id, Relation.ReflTransGen graph.BuiltFrom type id → graph.Sound id) ∧
    (∀ more, walkFrom graph.parts (graph.size + 1 + more) ∅ [type] =
      graph.walk graph.parts type) ∧
    ∀ order, (∀ id, Option.Rel List.Perm (order id) (graph.parts id)) →
      (graph.walk order type).all graph.isSound = graph.isWellFormed type := by
  refine ⟨isWellFormed_iff, walk_of_more parts_defined, fun order same => ?_⟩
  rw [Bool.eq_iff_iff, all_walk_iff same, isWellFormed_iff]

/-- A method whose result is its own class applied to a type variable with that type as a bound. -/
def recursiveBound : Graph :=
  (Store.empty.run
    [.add (.classDecl { name := "p.Node" }), .reserve, .add (.parameterized ⟨13⟩ [⟨14⟩]),
      .define ⟨14⟩ (.typeVariable { name := "T", variance := .covariant, bounds := [⟨15⟩] }),
      .add (.methodDecl { name := "next", declaringType := ⟨13⟩, returnType := ⟨15⟩ })]).graph

theorem isWellFormed_of_recursiveBound :
    let reversed : TypeId → Option (List TypeId) :=
      fun id => (recursiveBound.parts id).map List.reverse
    (∀ id, Option.Rel List.Perm (reversed id) (recursiveBound.parts id)) ∧
      (recursiveBound.walk reversed ⟨16⟩).all recursiveBound.isSound =
        recursiveBound.isWellFormed ⟨16⟩ ∧
      recursiveBound.isWellFormed ⟨16⟩ = true := by
  intro reversed
  have same : ∀ id, Option.Rel List.Perm (reversed id) (recursiveBound.parts id) := by
    intro id
    show Option.Rel List.Perm ((recursiveBound.parts id).map List.reverse) (recursiveBound.parts id)
    cases recursiveBound.parts id with
    | none => exact .none
    | some listed => exact .some listed.reverse_perm
  exact ⟨same, (isWellFormed_iff_builtFrom ⟨16⟩).2.2 reversed same, by decide⟩

/-- Whether an equality may go on from one type to another although the first is not built from the
second: to what a method throws, and to the elements of an annotation and what they are set to. -/
inductive Overlooks (graph : Graph) (id : TypeId) : TypeId → Prop where
  | thrown {decl : MethodDecl} {next : TypeId} (node_eq : graph.node id = some (.methodDecl decl))
      (listed : next ∈ decl.thrownExceptions) : Overlooks graph id next
  | element {type : TypeId} {values : List ElementValue} {value : ElementValue}
      (node_eq : graph.node id = some (.annotationUse type values)) (listed : value ∈ values) :
      Overlooks graph id value.element
  | content {type next : TypeId} {values : List ElementValue} {value : ElementValue}
      (node_eq : graph.node id = some (.annotationUse type values)) (listed : value ∈ values)
      (referred : next ∈ value.content.referenceList) : Overlooks graph id next

theorem builtFrom_of_looksAt (looks : graph.LooksAt id next) :
    graph.BuiltFrom id next ∨ graph.Overlooks id next ∨ graph.IsClass next := by
  obtain ⟨node, node_eq, named, listed⟩ := looks
  cases node with
  | primitive kind => cases listed
  | unknown => cases listed
  | classDecl decl => cases listed
  | intersection bounds => cases listed
  | multiCatch alternatives => cases listed
  | parameterized base arguments => exact Or.inl (.argument node_eq listed)
  | array element => exact Or.inl (List.mem_singleton.mp listed ▸ .element node_eq)
  | typeVariable decl => exact Or.inl (.variableBound node_eq listed)
  | variableDecl decl =>
      rcases List.mem_cons.mp listed with rfl | owned
      · exact Or.inl (.variableType node_eq)
      · exact Or.inl (.owner node_eq (Option.mem_toList.mp owned))
  | methodDecl decl =>
      rcases List.mem_cons.mp listed with rfl | listed
      · exact Or.inl (.declaring node_eq)
      · rcases List.mem_cons.mp listed with rfl | listed
        · exact Or.inl (.result node_eq)
        · rcases List.mem_append.mp listed with parameter | thrown
          · exact Or.inl (.parameter node_eq parameter)
          · exact Or.inr (Or.inl (.thrown node_eq thrown))
  | annotationUse type values =>
      rcases List.mem_cons.mp listed with rfl | listed
      -- An annotation that has a name has a class as its type.
      · refine Or.inr (Or.inr ?_)
        rw [isClass_iff]
        simpa [qualifiedName, classBehind, node_eq] using named rfl
      · obtain ⟨value, value_mem, listed⟩ := List.mem_flatMap.mp listed
        rcases List.mem_cons.mp listed with rfl | referred
        · exact Or.inr (Or.inl (.element node_eq value_mem))
        · exact Or.inr (Or.inl (.content node_eq value_mem referred))

theorem not_looksAt_of_isClass (isClass : graph.IsClass id) : ¬ graph.LooksAt id next := by
  rintro ⟨node, node_eq, -, listed⟩
  obtain ⟨decl, class_eq⟩ := isClass
  rw [class_eq] at node_eq
  obtain rfl := Option.some.inj node_eq
  cases listed

theorem BuiltFrom.isWellFormed (built : graph.BuiltFrom type next)
    (wellFormed : graph.isWellFormed type = true) : graph.isWellFormed next = true :=
  isWellFormed_iff.mpr fun id path => isWellFormed_iff.mp wellFormed id (.head built path)

theorem node_ne_none_of_isWellFormed (wellFormed : graph.isWellFormed type = true) :
    graph.node type ≠ none := by
  obtain ⟨node, node_eq, -⟩ := isWellFormed_iff.mp wellFormed type .refl
  simp [node_eq]

/-- Where equalities come from a well-formed type to a reference that leads nowhere, they have gone
through a reference that well-formedness overlooks. -/
theorem exists_overlooks {missing : TypeId} (undefined : graph.node missing = none)
    (path : Relation.ReflTransGen graph.LooksAt type missing)
    (wellFormed : graph.isWellFormed type = true) :
    ∃ holder next, Relation.ReflTransGen graph.BuiltFrom type holder ∧
      graph.Overlooks holder next ∧ Relation.ReflTransGen graph.LooksAt next missing := by
  induction path using Relation.ReflTransGen.head_induction_on with
  | refl => exact absurd undefined (node_ne_none_of_isWellFormed wellFormed)
  | @head type second looks rest ih =>
      rcases builtFrom_of_looksAt looks with built | overlooks | isClass
      · obtain ⟨holder, next, builtHolder, overlooks, later⟩ := ih (built.isWellFormed wellFormed)
        exact ⟨holder, next, .head built builtHolder, overlooks, later⟩
      · exact ⟨type, second, .refl, overlooks, rest⟩
      · rcases rest.cases_head with rfl | ⟨third, further, -⟩
        · obtain ⟨decl, class_eq⟩ := isClass
          rw [class_eq] at undefined
          cases undefined
        · exact absurd further (not_looksAt_of_isClass isClass)

end Graph

namespace Handle

variable {handle : Handle} {target source missing : TypeId} {mode : Mode}

/-- If the comparison of two well-formed types meets a reference that leads nowhere, it has come to
it through what a method throws or an annotation is written with, among all that the one type or the
other is built from. -/
theorem overlooks_of_dangling (target_wellFormed : handle.env.toGraph.isWellFormed target = true)
    (source_wellFormed : handle.env.toGraph.isWellFormed source = true)
    (failed : (handle.ask (.tryOfType target source mode)).1.answer =
      .error (.danglingType missing)) :
    handle.env.toGraph.node missing = none ∧
      ∃ type, (type = target ∨ type = source) ∧
        ∃ holder next, Relation.ReflTransGen handle.env.toGraph.BuiltFrom type holder ∧
          handle.env.toGraph.Overlooks holder next ∧
          Relation.ReflTransGen handle.env.toGraph.LooksAt next missing := by
  let question : Question := { relation := .ofType, target, source, mode }
  let reached (id : TypeId) : Prop :=
    ∃ type, (type = target ∨ type = source) ∧
      Relation.ReflTransGen handle.env.toGraph.LooksAt type id
  have unanswered : handle.tryAnswer question = .error (.danglingType missing) := failed
  -- What leads nowhere exceeds no limit.
  have run_failed :
      (handle.env.toGraph.run [] question).outcome = .error (.danglingType missing) :=
    (names_or_fails_of_tryAnswer unanswered).resolve_left id
  obtain ⟨undefined, type, one, path⟩ : handle.env.toGraph.LacksWithin reached _ := by
    refine Graph.lacksWithin_of_equality ?_ rfl ?_ run_failed
    · rintro id ⟨type, one, path⟩ next looks
      exact ⟨type, one, path.tail looks⟩
    · exact ⟨⟨target, Or.inl rfl, .refl⟩, ⟨source, Or.inr rfl, .refl⟩⟩
  refine ⟨undefined, type, one, Graph.exists_overlooks undefined path ?_⟩
  rcases one with rfl | rfl
  · exact target_wellFormed
  · exact source_wellFormed

/-- A store with two methods of one class, each of which throws what is not defined. -/
def danglingThrows : Store :=
  Store.empty.run
    [.add (.classDecl { name := "p.A" }),
      .addMethod
        { name := "run", declaringType := ⟨13⟩, returnType := Store.primitive .void
          thrownExceptions := [⟨9999⟩] },
      .addMethod
        { name := "run", declaringType := ⟨13⟩, returnType := Store.primitive .void
          thrownExceptions := [⟨9999⟩] }]

theorem overlooks_of_danglingThrows :
    let graph := danglingThrows.graph
    let handle : Handle := { env := danglingThrows.environment }
    graph.isWellFormed ⟨14⟩ = true ∧ graph.isWellFormed ⟨15⟩ = true ∧
      (handle.ask (.tryOfType ⟨14⟩ ⟨15⟩ .bound)).1.answer = .error (.danglingType ⟨9999⟩) ∧
      ∃ type, (type = ⟨14⟩ ∨ type = ⟨15⟩) ∧
        ∃ holder next, Relation.ReflTransGen graph.BuiltFrom type holder ∧
          graph.Overlooks holder next ∧ Relation.ReflTransGen graph.LooksAt next ⟨9999⟩ := by
  intro graph handle
  have target_wellFormed : graph.isWellFormed ⟨14⟩ = true := by decide
  have source_wellFormed : graph.isWellFormed ⟨15⟩ = true := by decide
  have failed : (handle.ask (.tryOfType ⟨14⟩ ⟨15⟩ .bound)).1.answer =
      .error (.danglingType ⟨9999⟩) := by rfl
  exact ⟨target_wellFormed, source_wellFormed, failed,
    (overlooks_of_dangling target_wellFormed source_wellFormed failed).2⟩

/-- A comparison of well-formed types may meet a reference that leads nowhere. -/
theorem dangling_of_wellFormed :
    ¬ ∀ (store : Store) (target source missing : TypeId) (mode : Mode),
      store.graph.isWellFormed target = true → store.graph.isWellFormed source = true →
      (Handle.ask { env := store.environment } (.tryOfType target source mode)).1.answer ≠
        .error (.danglingType missing) := by
  intro never
  exact never danglingThrows ⟨14⟩ ⟨15⟩ ⟨9999⟩ .bound (by decide) (by decide) rfl

end Handle
end JavaTypes
