import JavaTypes.Proofs.Growth
import JavaTypes.Proofs.Naming
import JavaTypes.Proofs.NameSearch

/-!
# The root of the class hierarchy

A nominal type may be assigned to the root class exactly if its walk comes to the root or to a class
that extends the root without saying so.  Interfaces and annotation types extend no class, and
arrays lead nowhere, so that what leads to nothing else is refused; a test of names, on the other
hand, is shown the name of the root at every nominal type.
-/

namespace JavaTypes

namespace Goal

variable {ask : Question → Run}

theorem depths_tried_of_silent {goal : Goal}
    (silent : goal.Mentions (fun _ => False) fun _ => True) :
    (goal.tried ask).depths = [] := by
  have followed {first second : Run} {turning : Bool} (first_silent : first.depths = [])
      (second_silent : second.depths = []) : (first.followedBy turning second).depths = [] := by
    refine List.eq_nil_iff_forall_not_mem.mpr fun depth member => ?_
    rcases Run.mem_depths_of_followedBy member with here | there
    · simp [first_silent] at here
    · simp [second_silent] at there
  induction goal with
  | decided answer => rfl
  | stuck cause => rfl
  | compare question => exact silent.elim
  | both first second ihFirst ihSecond => exact followed (ihFirst silent.1) (ihSecond silent.2)
  | either first second ihFirst ihSecond => exact followed (ihFirst silent.1) (ihSecond () silent.2)

end Goal

namespace Graph

/-- Whether a type is of the root class, or of a class that extends the root without saying so: a
class, an enumeration or a record that declares no superclass. -/
def EndsAtRoot (graph : Graph) (id : TypeId) : Prop :=
  ∃ decl, graph.classBehind id = some decl ∧
    (ClassName.normalize decl.name = ClassName.object ∨
      decl.supertype = none ∧ decl.kind ≠ .interface ∧ decl.kind ≠ .annotationType)

variable {graph : Graph} {id source root : TypeId} {name : String} {mode : Mode}
  {decl : ClassDecl} {sourceNode : Node}

/-- No question is asked in a search for a name that stands for no primitive. -/
theorem depths_fitsName_eq_nil (unnamed : primitiveNamed? name = none) {ask : Question → Run} :
    ((graph.fitsName name source).tried ask).depths = [] := by
  apply Goal.depths_tried_of_silent
  apply Goal.mentions_any
  intro goal member
  rw [LazyList.toList_map] at member
  obtain ⟨id, -, rfl⟩ := List.mem_map.mp member
  rw [bearsName, withNode]
  cases node_eq : graph.node id with
  | none => trivial
  | some node =>
      have called : (graph.withName id fun own => .decided (ClassName.same name own)).Mentions
          (fun _ => False) fun _ => True := by
        rw [withName]
        cases graph.qualifiedName id <;> trivial
      cases node with
      | primitive kind =>
          rw [unnamed]
          trivial
      | classDecl own => exact called
      | annotationUse type values => exact called
      | parameterized base arguments =>
          dsimp only
          split
          · trivial
          · exact called
      | _ => trivial

theorem primitiveNamed?_object : primitiveNamed? ClassName.object = none := by rfl

theorem normalize_object : ClassName.normalize ClassName.object = ClassName.object := by
  cbv

theorem not_mem_object : '<' ∉ ClassName.object.toList := by decide

theorem goesBy_object_iff : graph.GoesBy ClassName.object id ↔
    ∃ decl, graph.classBehind id = some decl ∧
      ClassName.normalize decl.name = ClassName.object := by
  constructor
  · rintro (⟨own, own_mem, name_eq⟩ | ⟨base, arguments, node_eq, text_eq⟩ |
      ⟨kind, node_eq, named, named_mem, fits⟩)
    · obtain ⟨decl, behind, rfl⟩ := Option.map_eq_some_iff.mp own_mem
      exact ⟨decl, behind, name_eq.symm.trans normalize_object⟩
    · exact absurd (text_eq ▸ lt_mem_render node_eq) not_mem_object
    · rw [primitiveNamed?_object] at named_mem
      cases named_mem
  · rintro ⟨decl, behind, name_eq⟩
    exact Or.inl ⟨decl.name, Option.map_eq_some_iff.mpr ⟨decl, behind, rfl⟩,
      normalize_object.trans name_eq.symm⟩

theorem superclass_eq_object (undeclared : decl.supertype = none) (cls : decl.kind ≠ .interface)
    (unmarked : decl.kind ≠ .annotationType) (other : decl.name ≠ ClassName.object) :
    graph.superclass decl = graph.object := by
  rw [superclass, undeclared]
  cases kind_eq : decl.kind with
  | interface => exact absurd kind_eq cls
  | annotationType => exact absurd kind_eq unmarked
  | plain | enumeration | record => exact if_neg (by simpa using other)

theorem endsAtRoot_of_goesBy (goes : graph.GoesBy ClassName.object id) : graph.EndsAtRoot id := by
  obtain ⟨decl, behind, name_eq⟩ := goesBy_object_iff.mp goes
  exact ⟨decl, behind, Or.inl name_eq⟩

section

variable (root_eq : graph.node root = some (.classDecl decl)) (named : decl.name = ClassName.object)

include root_eq named

theorem goesBy_object_root : graph.GoesBy ClassName.object root :=
  goesBy_object_iff.mpr ⟨decl, by rw [classBehind, root_eq], by rw [named, normalize_object]⟩

/-- A walk comes to what goes by the name of the root exactly if it comes to a class that is the
root or extends it without saying so. -/
theorem reaches_object_iff (registered : graph.object = some root) :
    (∃ id, Relation.ReflTransGen graph.TakesNamesOf source id ∧
        graph.GoesBy ClassName.object id) ↔
      ∃ id, Relation.ReflTransGen graph.TakesNamesOf source id ∧ graph.EndsAtRoot id := by
  constructor
  · rintro ⟨id, path, goes⟩
    exact ⟨id, path, endsAtRoot_of_goesBy goes⟩
  · rintro ⟨id, path, own, behind, name_eq | ⟨undeclared, cls, unmarked⟩⟩
    · exact ⟨id, path, goesBy_object_iff.mpr ⟨own, behind, name_eq⟩⟩
    · by_cases root_name : own.name = ClassName.object
      · refine ⟨id, path, goesBy_object_iff.mpr ⟨own, behind, ?_⟩⟩
        rw [root_name, normalize_object]
      · have super_eq : graph.supertype id = some root := by
          rw [supertype, behind, Option.bind_some,
            superclass_eq_object undeclared cls unmarked root_name, registered]
        exact ⟨root, path.tail (.super (Or.inl super_eq)), goesBy_object_root root_eq named⟩

/-- Whether the root may be assigned from a source is found out with one question at most, if every
type that the source leads to is known. -/
theorem run_of_root (mode : Mode) (registered : graph.object = some root)
    (knows : graph.KnowsPrimitives) (source_eq : graph.node source = some sourceNode)
    (searched : sourceNode.isSearched = true)
    (known : ∀ id, Relation.ReflTransGen graph.TakesNamesOf source id → graph.Known id) :
    ∃ holds, (graph.run [] ⟨.assignableTo, root, source, mode⟩).outcome = .ok holds ∧
      (holds = true ↔
        ∃ id, Relation.ReflTransGen graph.TakesNamesOf source id ∧ graph.EndsAtRoot id) ∧
      (graph.run [] ⟨.assignableTo, root, source, mode⟩).StaysAt 0 1 := by
  by_cases same : root = source
  · subst same
    rw [run_of_settled (step_of_same root_eq rfl)]
    refine ⟨true, rfl, iff_of_true rfl ⟨root, .refl, ?_⟩, .of_depths_eq_nil rfl⟩
    exact endsAtRoot_of_goesBy (goesBy_object_root root_eq named)
  · have apart : ∀ question ∈ [(⟨.assignableTo, root, source, mode⟩ : Question)],
        ¬ graph.ComparesPrimitives question := by
      rintro question member ⟨target_primitive, -⟩
      rw [List.mem_singleton.mp member, primitive?, root_eq] at target_primitive
      cases target_primitive
    obtain ⟨holds, decided, holds_iff⟩ := outcome_fitsName knows apart ClassName.object known
    rw [run_of_searched root_eq source_eq searched same List.not_mem_nil, named]
    refine ⟨holds, decided, ?_, 1, le_rfl, ?_⟩
    · exact holds_iff.trans (reaches_object_iff root_eq named registered)
    · rw [Run.within, depths_fitsName_eq_nil primitiveNamed?_object]
      rfl

end

/-- Where supertypes count, a test of names that accepts that of the root accepts every nominal
type. -/
theorem askNames_of_root {accepts : String → Bool} (accepted : accepts ClassName.object = true)
    (source_eq : graph.node source = some sourceNode) (nominal : sourceNode.isNominal = true)
    (behind : graph.classBehind source = some decl) :
    (graph.askNames true accepts source).outcome = .ok true := by
  have branching : graph.nominalSupertypes source = some (graph.supertypes source) := by
    rw [nominalSupertypes, source_eq]
    exact if_pos nominal
  have asked_eq : graph.nameAsked true source =
      if decl.name = ClassName.object then [.ok ClassName.object]
      else [.ok decl.name, .ok ClassName.object] := by
    have own : graph.qualifiedName source = some decl.name := by simp [qualifiedName, behind]
    rw [nameAsked, source_eq, own]
    by_cases root_name : decl.name = ClassName.object <;> simp [nominal, root_name]
  rw [askNames, if_pos rfl, walk, walkFrom_of_fresh branching Std.TreeSet.not_mem_emptyc,
    LazyList.flatMap_cons, asked_eq]
  split
  · simp [LazyList.prepend, Inquiry.along, accepted]
  · cases own_accepted : accepts decl.name <;>
      simp [LazyList.prepend, Inquiry.along, accepted, own_accepted]

theorem not_takesNamesOf_array {element next : TypeId}
    (source_eq : graph.node source = some (.array element)) :
    ¬ graph.TakesNamesOf source next := by
  intro takes
  rw [← leads_ancestors] at takes
  obtain ⟨references, branching, listed⟩ := takes
  rw [ancestors, source_eq] at branching
  obtain rfl := Option.some.inj branching
  cases listed

theorem not_endsAtRoot_array {element : TypeId}
    (source_eq : graph.node source = some (.array element)) :
    ¬ ∃ id, Relation.ReflTransGen graph.TakesNamesOf source id ∧ graph.EndsAtRoot id := by
  rintro ⟨id, path, decl, behind, -⟩
  rcases path.cases_head with rfl | ⟨next, takes, -⟩
  · rw [classBehind, source_eq] at behind
    cases behind
  · exact not_takesNamesOf_array source_eq takes

end Graph

namespace Store

/-- The root class of the standard classes stays where it is. -/
theorem exists_root (operations : List Operation) :
    ∃ root decl, (standard.run operations).lookupClass ClassName.object = some root ∧
      (standard.run operations).graph.node root = some (.classDecl decl) ∧
      decl.name = ClassName.object := by
  obtain ⟨constructing, standard_eq⟩ := exists_standard_eq_run_rootStore
  rw [standard_eq, ← run_append]
  have looked : rootStore.lookupClass ClassName.object = some ⟨14⟩ := by decide +kernel
  have stands : rootStore.node? ⟨14⟩ =
      some (.classDecl { name := ClassName.object, flags := .publicFlag }) := by decide +kernel
  obtain ⟨more, grown⟩ := GrowsTo.run rootStore (constructing ++ operations) ⟨14⟩ _ stands
  exact ⟨⟨14⟩, _, find?_run looked (constructing ++ operations), grown, rfl⟩

end Store

theorem Limits.validate_eq_ok_iff {limits : Limits} :
    limits.validate = .ok () ↔ 0 < limits.maxDepth.toNat ∧ 0 < limits.maxIterations.toNat := by
  have positive (bound : UInt32) : 0 < bound.toNat ↔ bound ≠ 0 := by
    rw [Nat.pos_iff_ne_zero, ne_eq, ne_eq, ← UInt32.toNat_inj]
    rfl
  rw [validate, positive, positive]
  split_ifs <;> simp_all

namespace Handle

theorem answer_of_evaluate {handle : Handle} {query : Query} {answer : Answer}
    (evaluated : (query.evaluate handle.env handle.limits).outcome = .ok answer) :
    (handle.ask query).1.answer = .ok answer := by
  simp only [ask, evaluated]

/-- A run that asks one question at most, while none is open, is answered under limits that are not
zero. -/
theorem answers_of_staysAt {handle : Handle} {target source : TypeId} {mode : Mode} {holds : Bool}
    (valid : handle.limits.validate = .ok ())
    (stays : (handle.env.toGraph.run [] ⟨.assignableTo, target, source, mode⟩).StaysAt 0 1)
    (decided : (handle.env.toGraph.run [] ⟨.assignableTo, target, source, mode⟩).outcome =
      .ok holds) :
    ∀ query ∈ [Query.assignable target source mode, .tryAssignable target source mode],
      (handle.ask query).1.answer = .ok (.truth holds) := by
  obtain ⟨count, count_le, depths_eq⟩ := stays
  obtain ⟨depth_pos, iterations_pos⟩ := Limits.validate_eq_ok_iff.mp valid
  have suffice : handle.limits.Suffice
      (handle.env.toGraph.run [] ⟨.assignableTo, target, source, mode⟩) := by
    refine ⟨Run.reach_le_iff.mpr fun depth member => ?_, Or.inr ?_⟩
    · rw [depths_eq] at member
      rwa [List.eq_of_mem_replicate member]
    · rw [Run.entries, depths_eq, List.length_replicate]
      exact count_le.trans iterations_pos
  have found : (handle.env.toGraph.ask handle.limits ⟨.assignableTo, target, source, mode⟩ {}).1 =
      .ok holds := by
    rw [(handle.env.toGraph.ask_follows handle.limits _).outcome, Limits.outcome,
      Limits.exceeded?_eq_none_iff_suffice.mpr suffice, decided]
  rw [List.forall_mem_cons, List.forall_mem_singleton]
  constructor <;>
    exact answer_of_evaluate
      ((Evaluation.outcome_ofSearch_eq_ok fun _ _ => Answer.truth.inj).mpr found)

end Handle

namespace Store

/-- Whether the root class may be assigned from a type is answered under all limits that are not
zero, by what the type leads to. -/
theorem exists_root_answers (operations : List Operation) :
    let store := standard.run operations
    let graph := store.graph
    ∃ root, store.lookupClass ClassName.object = some root ∧
      ∀ limits : Limits, limits.validate = .ok () → ∀ source node mode,
        graph.node source = some node → node.isSearched = true →
        (∀ id, Relation.ReflTransGen graph.TakesNamesOf source id → graph.Known id) →
        ∃ holds,
          (∀ query ∈ [Query.assignable root source mode, .tryAssignable root source mode],
            (Handle.ask { env := store.environment, limits } query).1.answer =
              .ok (.truth holds)) ∧
          (holds = true ↔
            ∃ id, Relation.ReflTransGen graph.TakesNamesOf source id ∧ graph.EndsAtRoot id) := by
  intro store graph
  obtain ⟨root, decl, looked, root_eq, named⟩ := exists_root operations
  have knows : graph.KnowsPrimitives := (Origin.standard.coherent.run operations).knowsPrimitives
  refine ⟨root, looked, fun limits valid source node mode source_eq searched known => ?_⟩
  obtain ⟨holds, decided, holds_iff, stays⟩ := Graph.run_of_root root_eq named mode looked
    knows source_eq searched known
  let handle : Handle := { env := store.environment, limits }
  exact ⟨holds, handle.answers_of_staysAt valid stays decided, holds_iff⟩

/-- In a store of the standard classes and any others, where all that a type leads to is known, the
root class may be assigned from a nominal type exactly if that leads to the root or to a class,
enumeration or record that declares no superclass, and never from an array; a test of names that
accepts the name of the root accepts every nominal type. -/
theorem assignable_to_root_iff (operations : List Operation) {limits : Limits}
    (valid : limits.validate = .ok ()) :
    let store := standard.run operations
    let graph := store.graph
    let handle : Handle := { env := store.environment, limits }
    ∃ root, store.lookupClass ClassName.object = some root ∧
      ∀ source node mode, graph.node source = some node →
        (∀ id, Relation.ReflTransGen graph.TakesNamesOf source id → graph.Known id) →
        (node.isNominal = true →
          (∃ holds,
            (∀ query ∈ [Query.assignable root source mode, .tryAssignable root source mode],
              (handle.ask query).1.answer = .ok (.truth holds)) ∧
            (holds = true ↔ ∃ id, Relation.ReflTransGen graph.TakesNamesOf source id ∧
              graph.EndsAtRoot id)) ∧
          ∀ accepts, accepts ClassName.object = true →
            (handle.ask (.ofTypeWithName (some source) true accepts)).1.answer =
              .ok (.truth true)) ∧
        ∀ element, node = .array element →
          ∀ query ∈ [Query.assignable root source mode, .tryAssignable root source mode],
            (handle.ask query).1.answer = .ok (.truth false) := by
  intro store graph handle
  obtain ⟨root, looked, answered⟩ := exists_root_answers operations
  refine ⟨root, looked, fun source node mode source_eq known => ⟨fun nominal => ⟨?_, ?_⟩, ?_⟩⟩
  · exact answered limits valid source node mode source_eq (Node.isSearched_of_isNominal nominal)
      known
  · intro accepts accepted
    obtain ⟨own, own_eq, has_class⟩ := known source .refl
    obtain rfl := Option.some.inj (source_eq.symm.trans own_eq)
    obtain ⟨decl, behind⟩ := Option.isSome_iff_exists.mp (has_class nominal)
    have asked : (graph.askNames true accepts source).outcome = .ok true :=
      Graph.askNames_of_root accepted source_eq nominal behind
    exact Handle.answer_of_evaluate (congrArg (Except.map Answer.truth) asked)
  · rintro element rfl
    obtain ⟨holds, decided, holds_iff⟩ :=
      answered limits valid source _ mode source_eq rfl known
    obtain rfl : holds = false :=
      Bool.eq_false_iff.mpr (mt holds_iff.mp (Graph.not_endsAtRoot_array source_eq))
    exact decided

/-- The addition of an interface that extends nothing. -/
def addingTask : Operation := .add (.classDecl { name := "p.Task", kind := .interface })

section

variable (store : Store) {id : TypeId}

theorem node_addingTask :
    (store.run [addingTask]).graph.node store.nextId =
      some (.classDecl { name := "p.Task", kind := .interface }) :=
  (puts_push _).node?_self

variable {store}

theorem eq_of_takesNamesOf_task
    (path : Relation.ReflTransGen (store.run [addingTask]).graph.TakesNamesOf store.nextId id) :
    id = store.nextId := by
  rcases path.cases_head with same | ⟨next, takes, -⟩
  · exact same.symm
  · rw [← Graph.leads_ancestors] at takes
    obtain ⟨references, branching, listed⟩ := takes
    rw [Graph.ancestors, node_addingTask] at branching
    obtain rfl := Option.some.inj branching
    simp [Graph.supertypes, Graph.supertype, Graph.interfaces, Graph.classBehind, Graph.superclass,
      node_addingTask] at listed

theorem known_of_takesNamesOf_task
    (path : Relation.ReflTransGen (store.run [addingTask]).graph.TakesNamesOf store.nextId id) :
    (store.run [addingTask]).graph.Known id := by
  obtain rfl := eq_of_takesNamesOf_task path
  exact ⟨_, node_addingTask store, fun _ => by simp [Graph.classBehind, node_addingTask]⟩

theorem task_not_endsAtRoot :
    ¬ ∃ id, Relation.ReflTransGen (store.run [addingTask]).graph.TakesNamesOf store.nextId id ∧
      (store.run [addingTask]).graph.EndsAtRoot id := by
  rintro ⟨id, path, decl, behind, ends⟩
  obtain rfl := eq_of_takesNamesOf_task path
  simp only [Graph.classBehind, node_addingTask, Option.some.injEq] at behind
  subst behind
  rcases ends with name_eq | ⟨-, cls, -⟩
  · revert name_eq
    decide +kernel
  · exact cls rfl

end

theorem assignable_to_root_of_task :
    Limits.validate {} = .ok () ∧
      ∃ root, (standard.run [addingTask]).lookupClass ClassName.object = some root ∧
        (Handle.ask { env := (standard.run [addingTask]).environment }
          (.assignable root standard.nextId .bound)).1.answer = .ok (.truth false) ∧
        (Handle.ask { env := (standard.run [addingTask]).environment }
          (.ofTypeWithName (some standard.nextId) true (· == ClassName.object))).1.answer =
          .ok (.truth true) := by
  have valid : Limits.validate {} = .ok () := rfl
  obtain ⟨root, looked, answered⟩ := assignable_to_root_iff [addingTask] valid
  obtain ⟨⟨holds, decided, holds_iff⟩, tested⟩ :=
    (answered standard.nextId _ .bound (node_addingTask standard)
      fun _ => known_of_takesNamesOf_task).1 rfl
  obtain rfl : holds = false := Bool.eq_false_iff.mpr (mt holds_iff.mp task_not_endsAtRoot)
  exact ⟨valid, root, looked, decided _ List.mem_cons_self, tested _ (by simp)⟩

/-- The root class may not be assigned from every interface, although all that the interface refers
to is known. -/
theorem root_refuses_interface :
    ¬ ∀ (operations : List Operation) (source root : TypeId) (node : Node),
      let store := standard.run operations
      store.graph.node source = some node → node.isNominal = true →
      (∀ id, Relation.ReflTransGen
        (fun id next => ∃ node, store.graph.node id = some node ∧ next ∈ node.references)
        source id → store.graph.Known id) →
      store.lookupClass ClassName.object = some root →
      (Handle.ask { env := store.environment } (.assignable root source .bound)).1.answer =
        .ok (.truth true) := by
  intro always
  obtain ⟨root, looked, answered⟩ := exists_root_answers [addingTask]
  obtain ⟨holds, decided, holds_iff⟩ :=
    answered {} rfl standard.nextId _ .bound (node_addingTask standard) rfl
      fun _ => known_of_takesNamesOf_task
  have refers : ∀ id, Relation.ReflTransGen
      (fun id next => ∃ node, (standard.run [addingTask]).graph.node id = some node ∧
        next ∈ node.references) standard.nextId id →
      (standard.run [addingTask]).graph.Known id := by
    intro id path
    rcases path.cases_head with rfl | ⟨next, ⟨node, node_eq, listed⟩, -⟩
    · exact known_of_takesNamesOf_task .refl
    · obtain rfl := Option.some.inj ((node_addingTask standard).symm.trans node_eq)
      cases listed
  have held :=
    always [addingTask] standard.nextId root _ (node_addingTask standard) rfl refers looked
  rw [decided _ List.mem_cons_self] at held
  obtain rfl : holds = true := Answer.truth.inj (Except.ok.inj held)
  exact task_not_endsAtRoot (holds_iff.mp rfl)

end Store
end JavaTypes
