import JavaTypes.Proofs.Candidates
import JavaTypes.Proofs.Registration

/-!
# Why a query has no answer

A query that ends without an answer tells truly why: a reference that it followed leads nowhere, a
parameterized type or an annotation has no class, or a limit was exceeded, which is named.  In a
store in which every reference leads to a node, only the limits are left.
-/

namespace JavaTypes

/-- Whether a cause is that one of the given limits was exceeded. -/
def Limits.Names (limits : Limits) : Indeterminate → Prop
  | .depthExceeded limit => limit = limits.maxDepth
  | .iterationsExceeded limit => limit = limits.maxIterations
  | .danglingType _ | .notFullyQualified _ => False

namespace Query

/-- The types that a query is about. -/
def types : Query → List TypeId
  | ofType target source _ | assignable target source _ | tryOfType target source _
  | tryAssignable target source _ => [target, source]
  | assignableToName _ source | assignableToPattern _ source | assignableToPredicate _ source =>
      [source]
  | ofClassType type _ => [type]
  | ofTypeWithName type _ _ => type.toList
  | overriddenMethod method | isOverride method => [method]
  | declaredMethod type _ arguments => type.toList ++ arguments

end Query

theorem Limits.names_of_exceeded? {limits : Limits} {made : Nat} {depths : List Nat}
    {cause : Indeterminate} (exceeded : limits.exceeded? made depths = some cause) :
    limits.Names cause := by
  induction depths generalizing made with
  | nil => cases exceeded
  | cons depth depths ih =>
      rw [exceeded?, Option.or_eq_some_iff] at exceeded
      rcases exceeded with here | ⟨-, later⟩
      · rcases exceededAt?_eq_some_iff.mp here with ⟨-, rfl⟩ | ⟨-, -, rfl⟩ <;> exact rfl
      · exact ih later

/-- Under limits a run ends without an answer for a limit or because it does so without them. -/
theorem Limits.names_or_fails_of_outcome {limits : Limits} {made : Nat} {run : Run}
    {cause : Indeterminate} (failed : limits.outcome made run = .error cause) :
    limits.Names cause ∨ run.outcome = .error cause := by
  rw [outcome] at failed
  split at failed
  · next exceeded =>
      obtain rfl := Except.error.inj failed
      exact Or.inl (names_of_exceeded? exceeded)
  · exact Or.inr failed

theorem Handle.names_or_fails_of_tryAnswer {handle : Handle} {question : Question}
    {cause : Indeterminate} (failed : handle.tryAnswer question = .error cause) :
    handle.limits.Names cause ∨ (handle.env.toGraph.run [] question).outcome = .error cause := by
  rw [tryAnswer_eq] at failed
  cases ended : handle.limits.outcome 0 (handle.env.toGraph.run [] question) with
  | ok answer =>
      rw [ended] at failed
      cases failed
  | error own =>
      rw [ended] at failed
      obtain rfl := Except.error.inj failed
      exact Limits.names_or_fails_of_outcome ended

/-- What the run without limits decides is answered, unless a limit is exceeded. -/
theorem Handle.tryAnswer_of_run {handle : Handle} {question : Question} {holds : Bool}
    (decided : (handle.env.toGraph.run [] question).outcome = .ok holds) :
    handle.tryAnswer question = .ok (.truth holds) ∨
      ∃ cause, handle.limits.Names cause ∧ handle.tryAnswer question = .error cause := by
  cases answered : handle.tryAnswer question with
  | error cause =>
      rcases names_or_fails_of_tryAnswer answered with named | failed
      · exact Or.inr ⟨cause, named, rfl⟩
      · cases decided.symm.trans failed
  | ok answer =>
      rw [tryAnswer_of_suffice (suffice_of_tryAnswer answered), decided] at answered
      exact Or.inl answered.symm

namespace Inquiry

/-- An inquiry breaks off only where the sequence does. -/
theorem mem_of_along {α : Type} {accepts : List α → α → Bool} {before : List α}
    {items : LazyList (Except Indeterminate α)} {cause : Indeterminate}
    (failed : (along accepts before items).outcome = .error cause) :
    .error cause ∈ items.toList := by
  induction items generalizing before with
  | nil => cases failed
  | cons head rest ih =>
      cases head with
      | error other =>
          obtain rfl : other = cause := Except.error.inj failed
          exact List.mem_cons_self
      | ok item =>
          rw [along] at failed
          split at failed
          · cases failed
          · exact List.mem_cons_of_mem _ (ih () failed)

end Inquiry

namespace Graph

variable {graph : Graph} {limits : Limits} {inside : TypeId → Prop} {cause : Indeterminate}
  {guard : Guard} {goal : Goal} {id : TypeId}

/-- Whether a cause tells truly why there is no answer: a limit was exceeded, or the graph lacks
something in a given part. -/
def Explains (graph : Graph) (limits : Limits) (inside : TypeId → Prop) (cause : Indeterminate) :
    Prop :=
  limits.Names cause ∨ graph.LacksWithin inside cause

section

variable (encloses : graph.Encloses inside)

include encloses

theorem explains_of_ask {question : Question} (tracks : guard.Tracks [])
    (within : question.IsWithin inside)
    (failed : (graph.ask limits question guard).1 = .error cause) :
    graph.Explains limits inside cause := by
  rw [(graph.ask_follows_of_tracks limits question tracks).outcome] at failed
  exact (Limits.names_or_fails_of_outcome failed).imp_right (lacksWithin_of_run encloses within)

theorem explains_of_prove (confines : graph.Confines inside goal)
    (failed : (graph.prove limits goal {}).1 = .error cause) :
    graph.Explains limits inside cause := by
  have keeps : ∀ question guard, Guard.Tracks guard [] →
      (graph.ask limits question guard).2.Tracks [] := fun _ _ => tracks_ask
  exact Goal.fails_of_solve keeps (fun _ _ => explains_of_ask encloses)
    (confines.mono (fun _ => id) fun _ => Or.inr) Guard.tracks_nil failed

theorem explains_of_firstHolding {candidates : LazyList (TypeId × Goal)}
    (confines : ∀ entry ∈ candidates.toList, graph.Confines inside entry.2)
    (failed : (Goal.firstHolding (graph.ask limits) candidates {}).1 = .error cause) :
    graph.Explains limits inside cause := by
  have keeps : ∀ question guard, Guard.Tracks guard [] →
      (graph.ask limits question guard).2.Tracks [] := fun _ _ => tracks_ask
  exact Goal.fails_of_firstHolding keeps (fun _ _ => explains_of_ask encloses)
    (fun entry member => (confines entry member).mono (fun _ => id) fun _ => Or.inr)
    Guard.tracks_nil failed

omit encloses in
theorem confines_isNamedClass (name : String) (id_in : inside id) :
    graph.Confines inside (graph.isNamedClass name id) := by
  refine confines_withNode id_in fun node node_eq => ?_
  split
  case h_1 | h_2 | h_3 => exact confines_withName id_in node_eq rfl fun own => trivial
  all_goals trivial

theorem confines_ofClass (name : String) (id_in : inside id) :
    graph.Confines inside (graph.ofClass name id) := by
  refine Goal.mentions_any fun goal member => ?_
  rw [LazyList.toList_map] at member
  obtain ⟨other, visited, rfl⟩ := List.mem_map.mp member
  exact confines_isNamedClass name (encloses.keepsInside_underlying.mem_walk underlying_defined id_in visited)

theorem confines_hasSignature {through method : TypeId} {name : String} {arguments : List TypeId}
    (arguments_in : ∀ argument ∈ arguments, inside argument) (method_in : inside method) :
    graph.Confines inside (graph.hasSignature through name arguments method) := by
  refine confines_withNode method_in fun node node_eq => ?_
  split
  · next decl =>
      have parameters_in : ∀ parameter ∈ decl.parameterTypes, inside parameter := by
        intro parameter member
        refine encloses.references method_in node_eq parameter ?_
        simp [Node.references, MethodDecl.references, member]
      split
      · dsimp only
        split
        · refine Goal.mentions_all (Goal.mentions_zipWith ?_)
          exact fun parameter parameter_mem argument argument_mem =>
            ⟨⟨parameters_in parameter parameter_mem, arguments_in argument argument_mem⟩, trivial⟩
        · trivial
      · trivial
  · trivial

theorem confines_candidates {name : String} {arguments : List TypeId}
    (arguments_in : ∀ argument ∈ arguments, inside argument) (type_in : inside id) :
    ∀ entry ∈ (graph.candidates name arguments id).toList, graph.Confines inside entry.2 := by
  intro entry member
  rw [candidates, LazyList.toList_flatMap] at member
  obtain ⟨through, visited, listed⟩ := List.mem_flatMap.mp member
  have through_in : inside through :=
    encloses.keepsInside_declaredSupertypes.mem_walk declaredSupertypes_defined type_in visited
  rw [candidatesAt] at listed
  split at listed
  · next undefined =>
      rw [List.mem_singleton.mp listed]
      exact ⟨undefined, through_in⟩
  · obtain ⟨method, method_mem, rfl⟩ := List.mem_map.mp listed
    exact confines_hasSignature encloses arguments_in
      (encloses.methods through_in method method_mem)

omit encloses in
theorem lacksWithin_of_typeAsked (id_in : inside id) (failed : .error cause ∈ graph.typeAsked id) :
    graph.LacksWithin inside cause := by
  rw [typeAsked] at failed
  split at failed
  · next undefined =>
      obtain rfl := Except.error.inj (List.mem_singleton.mp failed)
      exact ⟨undefined, id_in⟩
  · simp at failed
  · split at failed <;> simp at failed

omit encloses in
theorem lacksWithin_of_nameAsked {supertypesCount : Bool} (id_in : inside id)
    (failed : .error cause ∈ graph.nameAsked supertypesCount id) :
    graph.LacksWithin inside cause := by
  rw [nameAsked] at failed
  split at failed
  · next undefined =>
      obtain rfl := Except.error.inj (List.mem_singleton.mp failed)
      exact ⟨undefined, id_in⟩
  · next node node_eq =>
      split at failed
      · next nominal =>
          split at failed
          · next unnamed =>
              obtain rfl := Except.error.inj (List.mem_singleton.mp failed)
              exact ⟨lacks_name node_eq nominal unnamed, id_in⟩
          · split at failed <;> simp at failed
      · simp at failed

theorem lacksWithin_of_askTypes {accepts : List TypeId → TypeId → Bool} (id_in : inside id)
    (failed : (graph.askTypes accepts id).outcome = .error cause) :
    graph.LacksWithin inside cause := by
  have asked := Inquiry.mem_of_along failed
  rw [LazyList.toList_flatMap] at asked
  obtain ⟨visited, member, broken⟩ := List.mem_flatMap.mp asked
  exact lacksWithin_of_typeAsked (encloses.keepsInside_ancestors.mem_walk ancestors_defined id_in member) broken

theorem lacksWithin_of_askNames {supertypesCount : Bool} {accepts : String → Bool}
    (id_in : inside id)
    (failed : (graph.askNames supertypesCount accepts id).outcome = .error cause) :
    graph.LacksWithin inside cause := by
  have asked := Inquiry.mem_of_along failed
  rw [LazyList.toList_flatMap] at asked
  obtain ⟨visited, member, broken⟩ := List.mem_flatMap.mp asked
  refine lacksWithin_of_nameAsked ?_ broken
  split at member
  · exact encloses.keepsInside_nominalSupertypes.mem_walk nominalSupertypes_defined id_in member
  · rw [LazyList.toList_ofList, List.mem_singleton] at member
    exact member ▸ id_in

end

end Graph

theorem Environment.explains_of_overriddenMethod {env : Environment} {limits : Limits}
    {inside : TypeId → Prop} {method : TypeId} {cause : Indeterminate}
    (encloses : env.toGraph.Encloses inside) (method_in : inside method)
    (failed : (env.overriddenMethod limits method {}).1 = .error cause) :
    env.toGraph.Explains limits inside cause := by
  rw [overriddenMethod] at failed
  split at failed
  · next undefined =>
      obtain rfl := Except.error.inj failed
      exact Or.inr ⟨undefined, method_in⟩
  · next decl node_eq =>
      have decl_in := encloses.references method_in node_eq
      simp only [Node.references, MethodDecl.references, List.forall_mem_cons,
        List.forall_mem_append] at decl_in
      obtain ⟨declaring_in, -, parameters_in, -⟩ := decl_in
      dsimp only at failed
      split at failed
      · cases failed
      · next other after ended =>
          obtain rfl : other = cause := Except.error.inj failed
          refine Graph.explains_of_firstHolding encloses ?_ (congrArg Prod.fst ended)
          intro entry member
          rw [LazyList.toList_join] at member
          obtain ⟨super, super_mem, candidate⟩ := List.mem_flatMap.mp member
          exact Graph.confines_candidates encloses parameters_in
            (encloses.supertypes declaring_in super super_mem) entry candidate
  · cases failed

namespace Query

/-- A query about types of an enclosed part that ends without an answer tells truly why. -/
theorem explains_of_evaluate {env : Environment} {limits : Limits} {inside : TypeId → Prop}
    {query : Query} {cause : Indeterminate} (encloses : env.toGraph.Encloses inside)
    (types_in : ∀ id ∈ query.types, inside id)
    (failed : (query.evaluate env limits).outcome = .error cause) :
    env.toGraph.Explains limits inside cause := by
  have ended {α : Type} {answer : α → Answer} {outcome : Except Indeterminate α}
      (failed : outcome.map answer = .error cause) : outcome = .error cause := by
    cases outcome with
    | error other => exact congrArg Except.error (Except.error.inj failed)
    | ok found => cases failed
  cases query with
  | ofType target source mode | tryOfType target source mode
  | assignable target source mode | tryAssignable target source mode =>
      have within (relation : Relation) :
          Question.IsWithin inside { relation, target, source, mode } :=
        ⟨types_in target (by simp [types]), types_in source (by simp [types])⟩
      exact Graph.explains_of_ask encloses Guard.tracks_nil (within _) (ended failed)
  | assignableToName name source =>
      have source_in := types_in source (List.mem_singleton_self source)
      exact Graph.explains_of_prove encloses (Graph.confines_fitsName encloses name source_in)
        (ended failed)
  | assignableToPattern matching source | assignableToPredicate accepts source =>
      have source_in := types_in source (List.mem_singleton_self source)
      exact Or.inr (Graph.lacksWithin_of_askTypes encloses source_in (ended failed))
  | ofClassType type name =>
      have type_in := types_in type (List.mem_singleton_self type)
      exact Graph.explains_of_prove encloses (Graph.confines_ofClass encloses name type_in)
        (ended failed)
  | ofTypeWithName type supertypesCount accepts =>
      cases type with
      | none => cases failed
      | some type =>
          have type_in := types_in type (by simp [types])
          exact Or.inr (Graph.lacksWithin_of_askNames encloses type_in (ended failed))
  | overriddenMethod method | isOverride method =>
      have method_in := types_in method (List.mem_singleton_self method)
      exact Environment.explains_of_overriddenMethod encloses method_in (ended failed)
  | declaredMethod type name arguments =>
      cases type with
      | none => cases failed
      | some type =>
          obtain ⟨type_in, arguments_in⟩ := List.forall_mem_cons.mp types_in
          exact Graph.explains_of_firstHolding encloses
            (Graph.confines_candidates encloses arguments_in type_in) (ended failed)

end Query

/-- The class that a parameterized type gives arguments to, or an annotation gives values to. -/
def Node.applied? : Node → Option TypeId
  | parameterized base _ => some base
  | annotationUse type _ => some type
  | _ => none

namespace Store

/-- Whether every slot of a store holds a node, every reference of a node leads to a slot, and
parameterized types and annotations are made of classes. -/
structure Closed (store : Store) : Prop where
  defined : ∀ id : TypeId, id.raw < store.size → store.node? id ≠ none
  references : ∀ id, ∀ node ∈ store.node? id, ∀ other ∈ node.references, other.raw < store.size
  classes : ∀ id, ∀ node ∈ store.node? id, ∀ cls ∈ node.applied?,
    store.graph.classDecl? cls ≠ none

variable {store : Store}

theorem closed_iff :
    store.Closed ↔ ∀ raw < store.size, ∃ node ∈ store.node? ⟨raw⟩,
      (∀ other ∈ node.references, other.raw < store.size) ∧
        ∀ cls ∈ node.applied?, store.graph.classDecl? cls ≠ none := by
  constructor
  · intro closed raw inside
    obtain ⟨node, node_eq⟩ := Option.ne_none_iff_exists'.mp (closed.defined ⟨raw⟩ inside)
    exact ⟨node, node_eq, closed.references _ node node_eq, closed.classes _ node node_eq⟩
  · intro each
    have at_node {id : TypeId} {node : Node} (node_eq : store.node? id = some node) :
        (∀ other ∈ node.references, other.raw < store.size) ∧
          ∀ cls ∈ node.applied?, store.graph.classDecl? cls ≠ none := by
      have inside : id.raw < store.size := by
        by_contra outside
        simp [store.node?_eq_none id (Nat.le_of_not_lt outside)] at node_eq
      obtain ⟨own, own_eq, closed⟩ := each id.raw inside
      obtain rfl : node = own := Option.some.inj (node_eq.symm.trans own_eq)
      exact closed
    constructor
    case defined =>
      intro id inside
      obtain ⟨node, node_eq, -⟩ := each id.raw inside
      exact Option.ne_none_iff_exists'.mpr ⟨node, node_eq⟩
    case references => exact fun id node node_eq => (at_node node_eq).1
    case classes => exact fun id node node_eq => (at_node node_eq).2

instance : Decidable store.Closed := decidable_of_iff _ closed_iff.symm

/-- Nothing leads out of the slots of a closed store, and the index leads to them as well. -/
theorem Closed.encloses (closed : store.Closed) (reached : store.Reached) :
    store.graph.Encloses fun id => id.raw < store.size where
  references _ node_eq := closed.references _ _ node_eq
  registered found := (reached.agreement.2.1 _ _ found).2.1
  primitive kind := by
    have node_eq := reached.coherent.primitive_slot kind
    exact (Array.getElem?_eq_some_iff.mp (node?_eq_some.mp node_eq)).1

theorem Closed.not_lacksWithin (closed : store.Closed) {cause : Indeterminate} :
    ¬ store.graph.LacksWithin (fun id => id.raw < store.size) cause := by
  rintro ⟨lacks, within⟩
  cases cause with
  | danglingType id => exact closed.defined id within lacks
  | notFullyQualified id =>
      rcases lacks with ⟨base, arguments, node_eq, missing⟩ | ⟨type, values, node_eq, missing⟩
      · exact closed.classes id _ node_eq base rfl missing
      · exact closed.classes id _ node_eq type rfl missing
  | depthExceeded limit | iterationsExceeded limit => exact lacks

end Store

namespace Query

/-- A query that has no answer tells truly why, whatever it asks and whatever the graph: the type it
calls dangling has no node, the one it calls unnamed is a parameterized type or an annotation
without a class, and a limit that it calls exceeded is the one configured.  So in a store that is
closed a query about types in use is answered unless a limit is exceeded. -/
theorem evaluate_eq_error (query : Query) (limits : Limits) :
    (∀ (env : Environment) (cause : Indeterminate),
      (query.evaluate env limits).outcome = .error cause →
        limits.Names cause ∨ env.toGraph.Lacks cause) ∧
    ∀ (store : Store) (package : TypeId → Option String), store.Reached → store.Closed →
      (∀ id ∈ query.types, id.raw < store.size) →
      (∃ answer, (query.evaluate { store.graph with package } limits).outcome = .ok answer) ∨
        ∃ cause, limits.Names cause ∧
          (query.evaluate { store.graph with package } limits).outcome = .error cause := by
  constructor
  · intro env cause failed
    have explained := explains_of_evaluate env.encloses_all (fun _ _ => trivial) failed
    exact explained.imp_right And.left
  · intro store package reached closed types_in
    cases ended : (query.evaluate { store.graph with package } limits).outcome with
    | ok answer => exact Or.inl ⟨answer, rfl⟩
    | error cause =>
        have explained := explains_of_evaluate (closed.encloses reached) types_in ended
        exact Or.inr ⟨cause, explained.resolve_right closed.not_lacksWithin, rfl⟩

/-- A store with a class that implements `Box<Names>`, where `Box` is only reserved. -/
def awaitedBox : Store :=
  Store.empty.run
    [.internClass "p.Box", .reserve, .add (.parameterized ⟨13⟩ [⟨14⟩]),
      .define ⟨14⟩ (.classDecl { name := "p.Names", interfaces := [⟨15⟩] })]

/-- The store in which that class is known. -/
def knownBox : Store := awaitedBox.run [.define ⟨13⟩ (.classDecl { name := "p.Box" })]

theorem evaluate_eq_error_of_awaitedBox :
    let query := Query.assignableToName "p.Box" ⟨14⟩
    (query.evaluate awaitedBox.environment {}).outcome = .error (.notFullyQualified ⟨15⟩) ∧
      (Limits.Names {} (.notFullyQualified ⟨15⟩) ∨
        awaitedBox.graph.Lacks (.notFullyQualified ⟨15⟩)) ∧
      knownBox.Reached ∧ knownBox.Closed ∧ (∀ id ∈ query.types, id.raw < knownBox.size) ∧
      ((∃ answer, (query.evaluate knownBox.environment {}).outcome = .ok answer) ∨
        ∃ cause, Limits.Names {} cause ∧
          (query.evaluate knownBox.environment {}).outcome = .error cause) := by
  intro query
  have failed : (query.evaluate awaitedBox.environment {}).outcome =
      .error (.notFullyQualified ⟨15⟩) := by decide +kernel
  have reached : knownBox.Reached :=
    ⟨Store.empty, _, .empty, (Store.run_append Store.empty _ _).symm⟩
  have closed : knownBox.Closed := by decide +kernel
  have types_in : ∀ id ∈ query.types, id.raw < knownBox.size := by decide +kernel
  obtain ⟨true_cause, answered⟩ := query.evaluate_eq_error {}
  exact ⟨failed, true_cause awaitedBox.environment _ failed, reached, closed, types_in,
    answered knownBox knownBox.graph.ownerPackage reached closed types_in⟩

end Query
end JavaTypes
