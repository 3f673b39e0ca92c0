import JavaTypes.Proofs.Assignment
import JavaTypes.Proofs.Causes
import JavaTypes.Proofs.Decision
import JavaTypes.Proofs.Overriding
import JavaTypes.Proofs.Recurrence
import JavaTypes.Proofs.Registration
import JavaTypes.View

/-!
# Searches for a name

A search for a name finds out whether the source leads to a type that goes by the name.  Visiting
each branching type once loses nothing: what lies behind a type that is visited again has been seen
or is still to be seen.  The only questions asked on the way are comparisons of primitives, which
are decided on the spot.
-/

namespace JavaTypes

/-- Whether a run asks at most so many questions, all of them while equally many are open. -/
def Run.StaysAt (run : Run) (depth most : Nat) : Prop :=
  ∃ count ≤ most, run.depths = List.replicate count depth

namespace Run.StaysAt

variable {first second : Run} {depth most later : Nat}

theorem of_depths_eq_nil (silent : first.depths = []) : first.StaysAt depth most :=
  ⟨0, Nat.zero_le _, silent⟩

theorem followedBy (turning : Bool) (first_stays : first.StaysAt depth most)
    (second_stays : second.StaysAt depth later) :
    (first.followedBy turning second).StaysAt depth (most + later) := by
  obtain ⟨count, count_le, depths_eq⟩ := first_stays
  obtain ⟨further, further_le, later_eq⟩ := second_stays
  have ends_early : first.StaysAt depth (most + later) := ⟨count, by omega, depths_eq⟩
  rw [Run.followedBy]
  split
  · split
    · exact ⟨count + further, by omega, by rw [depths_eq, later_eq, List.replicate_append_replicate]⟩
    · exact ends_early
  · exact ends_early

end Run.StaysAt

/-- Questions that are asked while few are open exceed the number of questions if any limit. -/
theorem Limits.exceeded?_replicate {limits : Limits} {made depth count : Nat}
    {cause : Indeterminate} (shallow : depth < limits.maxDepth.toNat)
    (exceeded : limits.exceeded? made (List.replicate count depth) = some cause) :
    cause = .iterationsExceeded limits.maxIterations ∧ ¬ limits.Permits (made + count) := by
  induction count generalizing made with
  | zero => cases exceeded
  | succ count ih =>
      rw [List.replicate_succ, exceeded?, Option.or_eq_some_iff] at exceeded
      rcases exceeded with here | ⟨-, later⟩
      · rcases exceededAt?_eq_some_iff.mp here with ⟨refused, cause_eq⟩ | ⟨-, deep, -⟩
        · exact ⟨cause_eq, fun permits => refused (permits.of_le (by omega))⟩
        · omega
      · have found := ih later
        rwa [Nat.add_assoc, Nat.add_comm 1] at found

namespace Goal

variable {α : Type} {ask : Question → Run} {goal : α → Goal}

/-- Alternatives some of which ask one question each ask no more questions than there are such. -/
theorem staysAt_any {asks : α → Bool} {depth : Nat}
    (each : ∀ item, ((goal item).tried ask).StaysAt depth (if asks item then 1 else 0))
    (items : LazyList α) :
    ((any (items.map goal)).tried ask).StaysAt depth (items.toList.countP asks) := by
  induction items with
  | nil => exact .of_depths_eq_nil rfl
  | cons item rest ih =>
      rw [LazyList.toList, List.countP_cons, Nat.add_comm]
      exact (each item).followedBy false (ih ())

/-- Alternatives fail only if one of them does. -/
theorem exists_of_any_fails {items : LazyList α} {cause : Indeterminate}
    (failed : ((any (items.map goal)).tried ask).outcome = .error cause) :
    ∃ item ∈ items.toList, ((goal item).tried ask).outcome = .error cause := by
  induction items with
  | nil => cases failed
  | cons item rest ih =>
      rcases Run.outcome_followedBy_eq_error.mp failed with here | ⟨-, later⟩
      · exact ⟨item, List.mem_cons_self, here⟩
      · obtain ⟨other, other_mem, other_failed⟩ := ih () later
        exact ⟨other, List.mem_cons_of_mem item other_mem, other_failed⟩

end Goal

namespace Node

/-- Whether a class is searched for among the types that a source leads to, and neither boxing nor
the bounds of the source decide. -/
def isSearched : Node → Bool
  | primitive _ | unknown | typeVariable _ | intersection _ => false
  | classDecl _ | parameterized _ _ | annotationUse _ _ | array _ | variableDecl _ | methodDecl _
  | multiCatch _ => true

variable {node : Node}

theorem isSearched_of_isNominal (nominal : node.isNominal = true) : node.isSearched = true := by
  cases node <;> first | rfl | cases nominal

theorem isDeterminate_of_isSearched (searched : node.isSearched = true) :
    node.isDeterminate = true := by
  cases node <;> first | rfl | cases searched

theorem ne_null_of_isSearched (searched : node.isSearched = true) : node ≠ primitive .null := by
  rintro rfl
  cases searched

end Node

namespace Graph

/-- Whether a type has the names of another among those that it fits: of its superclass and
interfaces, of a bound, of the type of a variable, of the result of a method. -/
inductive TakesNamesOf (graph : Graph) (id : TypeId) : TypeId → Prop where
  | super {next : TypeId} (extended : graph.Extends id next) : TakesNamesOf graph id next
  | variableBound {decl : TypeVariable} {next : TypeId}
      (node_eq : graph.node id = some (.typeVariable decl)) (listed : next ∈ decl.bounds) :
      TakesNamesOf graph id next
  | intersectionBound {bounds : List TypeId} {next : TypeId}
      (node_eq : graph.node id = some (.intersection bounds)) (listed : next ∈ bounds) :
      TakesNamesOf graph id next
  | variableType {decl : VariableDecl} (node_eq : graph.node id = some (.variableDecl decl)) :
      TakesNamesOf graph id decl.type
  | result {decl : MethodDecl} (node_eq : graph.node id = some (.methodDecl decl)) :
      TakesNamesOf graph id decl.returnType

/-- Whether a type goes by a name: it is of a class of that name, or a parameterized type whose text
is the name, or a primitive that may be assigned to the primitive of that name. -/
def GoesBy (graph : Graph) (name : String) (id : TypeId) : Prop :=
  graph.IsCalled name id ∨
    (∃ base arguments, graph.node id = some (.parameterized base arguments) ∧
      graph.render id = name) ∨
    ∃ kind, graph.node id = some (.primitive kind) ∧
      ∃ named ∈ primitiveNamed? name, graph.Assignable .bound (graph.primitive named) id

/-- Whether a question compares two primitives. -/
def ComparesPrimitives (graph : Graph) (question : Question) : Prop :=
  (graph.primitive? question.target).isSome ∧ (graph.primitive? question.source).isSome

/-- Whether a graph has its primitives where it says. -/
def KnowsPrimitives (graph : Graph) : Prop :=
  ∀ kind, graph.node (graph.primitive kind) = some (.primitive kind)

variable {graph : Graph} {id next target source : TypeId} {name : String} {kind : Primitive}
  {opened : List Question} {question : Question} {mode : Mode} {decl : ClassDecl}
  {sourceNode : Node}

/-- A nominal type may be assigned to itself at once. -/
theorem step_of_same (source_eq : graph.node source = some sourceNode)
    (nominal : sourceNode.isNominal = true) :
    graph.step ⟨.assignableTo, source, source, mode⟩ = .settled (.ok true) := by
  cases sourceNode with
  | classDecl _ | parameterized _ _ | annotationUse _ _ =>
      simp [step, source_eq, atOnce?, Question.assignableAtOnce?, Node.isWildcard]
  | _ => cases nominal

/-- A class is searched for by its name. -/
theorem step_of_searched (target_eq : graph.node target = some (.classDecl decl))
    (source_eq : graph.node source = some sourceNode) (searched : sourceNode.isSearched = true)
    (ne : target ≠ source) :
    graph.step ⟨.assignableTo, target, source, mode⟩ =
      .reduced (graph.fitsName decl.name source) := by
  have named : graph.qualifiedName target = some decl.name := by
    simp [qualifiedName, classBehind, target_eq]
  refine step_eq_reduced_iff.mpr ⟨_, _, target_eq, source_eq, ?_, ?_⟩
  · cases sourceNode with
    | primitive _ | unknown | typeVariable _ | intersection _ => cases searched
    | _ =>
        cases mode <;>
          simp [atOnce?, Question.assignableAtOnce?, Mode.infers, Node.isWildcard,
            Node.isNamedVariable, ne]
  · cases sourceNode with
    | primitive _ | unknown | typeVariable _ | intersection _ => cases searched
    | _ => simp [goal, assignabilityGoal, assignableToClass, withName, named]

theorem run_of_searched (target_eq : graph.node target = some (.classDecl decl))
    (source_eq : graph.node source = some sourceNode) (searched : sourceNode.isSearched = true)
    (ne : target ≠ source) (fresh : ⟨.assignableTo, target, source, mode⟩ ∉ opened) :
    graph.run opened ⟨.assignableTo, target, source, mode⟩ =
      ((graph.fitsName decl.name source).tried
        (graph.run (⟨.assignableTo, target, source, mode⟩ :: opened))).within opened.length :=
  run_of_fresh (step_of_searched target_eq source_eq searched ne) fresh

theorem leads_ancestors : Leads graph.ancestors = graph.TakesNamesOf := by
  funext id next
  rw [eq_iff_iff]
  constructor
  · rintro ⟨references, branching, listed⟩
    rw [ancestors] at branching
    split at branching
    case h_1 | h_2 => cases branching
    all_goals obtain rfl := Option.some.inj branching
    case h_3 | h_4 | h_5 => exact .super (mem_supertypes.mp listed)
    case h_6 decl node_eq => exact .variableBound node_eq listed
    case h_7 node_eq => exact .intersectionBound node_eq listed
    case h_8 decl node_eq => exact List.mem_singleton.mp listed ▸ .variableType node_eq
    case h_9 decl node_eq => exact List.mem_singleton.mp listed ▸ .result node_eq
    all_goals cases listed
  · intro takes
    cases takes with
    | super extended =>
        have listed := mem_supertypes.mpr extended
        cases node_eq : graph.node id with
        | none => simp [supertypes, supertype, interfaces, classBehind, node_eq] at listed
        | some node =>
            cases node with
            | classDecl | parameterized | annotationUse =>
                exact ⟨_, by rw [ancestors, node_eq]; rfl, listed⟩
            | _ => simp [supertypes, supertype, interfaces, classBehind, node_eq] at listed
    | variableBound node_eq listed => exact ⟨_, by rw [ancestors, node_eq]; rfl, listed⟩
    | intersectionBound node_eq listed => exact ⟨_, by rw [ancestors, node_eq]; rfl, listed⟩
    | variableType node_eq =>
        exact ⟨_, by rw [ancestors, node_eq]; rfl, List.mem_singleton_self _⟩
    | result node_eq => exact ⟨_, by rw [ancestors, node_eq]; rfl, List.mem_singleton_self _⟩

theorem mem_walk_iff_takesNamesOf :
    id ∈ (graph.walk graph.ancestors source).toList ↔
      Relation.ReflTransGen graph.TakesNamesOf source id :=
  mem_walk_ancestors_iff.trans (leads_ancestors ▸ Iff.rfl)

theorem goesBy_iff_bearsName : graph.GoesBy name id ↔ graph.BearsName graph.Assignable name id := by
  rw [BearsName]
  cases node_eq : graph.node id with
  | none => simp [GoesBy, IsCalled, qualifiedName, classBehind, node_eq]
  | some node =>
      cases node with
      | parameterized base arguments =>
          simp [GoesBy, node_eq, isWritten_iff, or_comm]
      | _ => simp [GoesBy, IsCalled, qualifiedName, classBehind, node_eq]

theorem primitive?_eq_some_iff : graph.primitive? id = some kind ↔
    graph.node id = some (.primitive kind) := by
  rw [primitive?]
  split
  · next own node_eq => simp [node_eq]
  · next other => exact iff_of_false (by simp) fun node_eq => other kind node_eq

/-- Whether a type bears a name depends on assignability only for primitives. -/
theorem bearsName_congr {first second : TypeRelation}
    (alike : ∀ kind, graph.node id = some (.primitive kind) → ∀ named,
      first .bound (graph.primitive named) id ↔ second .bound (graph.primitive named) id) :
    graph.BearsName first name id ↔ graph.BearsName second name id := by
  refine exists_congr fun node => and_congr_right fun node_eq => ?_
  cases node with
  | primitive kind => exact exists_congr fun named => and_congr_right' (alike kind node_eq named)
  | _ => exact Iff.rfl

/-- A comparison of primitives that is not open is decided, and rightly so, with one question at
most. -/
theorem run_of_comparesPrimitives (compares : graph.ComparesPrimitives question)
    (assigns : question.relation = .assignableTo) (fresh : question ∉ opened) :
    ∃ holds, (graph.run opened question).outcome = .ok holds ∧
      (graph.Valid question ↔ holds = true) ∧
      (graph.run opened question).StaysAt opened.length 1 := by
  obtain ⟨target, target_eq⟩ := Option.isSome_iff_exists.mp compares.1
  obtain ⟨source, source_eq⟩ := Option.isSome_iff_exists.mp compares.2
  rw [primitive?_eq_some_iff] at target_eq source_eq
  cases settled : atOnce? question (.primitive target) (.primitive source) with
  | some holds =>
      have step_eq : graph.step question = .settled (.ok holds) := by
        simp only [step, target_eq, source_eq, settled]
      rw [run_of_settled step_eq, valid_iff, justified_of_settled step_eq]
      exact ⟨holds, rfl, by simp, .of_depths_eq_nil rfl⟩
  | none =>
      have goal_eq : graph.goal question (.primitive target) (.primitive source) =
          .decided (target.widens source) := by
        simp only [goal, assigns]
        rfl
      have step_eq := step_eq_reduced_iff.mpr ⟨_, _, target_eq, source_eq, settled, goal_eq⟩
      rw [run_of_fresh step_eq fresh, valid_iff, justified_of_reduced step_eq]
      exact ⟨_, rfl, Iff.rfl, 1, le_rfl, rfl⟩

section

variable (knows : graph.KnowsPrimitives)
  (apart : ∀ question ∈ opened, ¬ graph.ComparesPrimitives question)

include knows apart

theorem run_of_primitive (node_eq : graph.node id = some (.primitive kind)) (named : Primitive) :
    ∃ holds, (graph.run opened ⟨.assignableTo, graph.primitive named, id, .bound⟩).outcome =
        .ok holds ∧
      (graph.Assignable .bound (graph.primitive named) id ↔ holds = true) ∧
      (graph.run opened ⟨.assignableTo, graph.primitive named, id, .bound⟩).StaysAt
        opened.length 1 := by
  have compares :
      graph.ComparesPrimitives ⟨.assignableTo, graph.primitive named, id, .bound⟩ := by
    constructor
    · rw [primitive?_eq_some_iff.mpr (knows named)]
      rfl
    · rw [primitive?_eq_some_iff.mpr node_eq]
      rfl
  simp only [assignable_iff_valid]
  exact run_of_comparesPrimitives compares rfl fun known => apart _ known compares

theorem bearsName_iff_goesBy :
    graph.BearsName (Relation.assignableTo.among fun question =>
      (graph.run opened question).outcome = .ok true) name id ↔ graph.GoesBy name id := by
  rw [goesBy_iff_bearsName]
  refine bearsName_congr fun kind node_eq named => ?_
  obtain ⟨holds, outcome_eq, fits, -⟩ := run_of_primitive knows apart node_eq named
  rw [Relation.among, outcome_eq, fits, Except.ok.injEq]

theorem staysAt_bearsName :
    ((graph.bearsName name id).tried (graph.run opened)).StaysAt opened.length
      (if (graph.primitive? id).isSome then 1 else 0) := by
  rw [bearsName, withNode]
  cases node_eq : graph.node id with
  | none => exact .of_depths_eq_nil rfl
  | some node =>
      have called {most : Nat} :
          ((graph.withName id fun own => .decided (ClassName.same name own)).tried
            (graph.run opened)).StaysAt opened.length most := by
        rw [withName]
        cases graph.qualifiedName id <;> exact .of_depths_eq_nil rfl
      cases node with
      | primitive kind =>
          rw [primitive?_eq_some_iff.mpr node_eq]
          dsimp only
          split
          · next named _ => exact (run_of_primitive knows apart node_eq named).choose_spec.2.2
          · exact .of_depths_eq_nil rfl
      | classDecl decl => exact called
      | annotationUse type values => exact called
      | parameterized base arguments =>
          dsimp only
          split
          · exact .of_depths_eq_nil rfl
          · exact called
      | _ => exact .of_depths_eq_nil rfl

theorem lacksWithin_of_bearsName {cause : Indeterminate}
    (failed : ((graph.bearsName name id).tried (graph.run opened)).outcome = .error cause) :
    graph.LacksWithin (· = id) cause := by
  rw [bearsName, withNode] at failed
  cases node_eq : graph.node id with
  | none =>
      rw [node_eq] at failed
      exact Except.error.inj failed ▸ ⟨node_eq, rfl⟩
  | some node =>
      have called (nominal : node.isNominal = true)
          (failed : ((graph.withName id fun own => .decided (ClassName.same name own)).tried
            (graph.run opened)).outcome = .error cause) : graph.LacksWithin (· = id) cause := by
        rw [withName] at failed
        split at failed
        · cases failed
        · next unnamed => exact Except.error.inj failed ▸ ⟨lacks_name node_eq nominal unnamed, rfl⟩
      rw [node_eq] at failed
      cases node with
      | primitive kind =>
          dsimp only at failed
          split at failed
          · next named _ =>
              obtain ⟨holds, outcome_eq, -⟩ := run_of_primitive knows apart node_eq named
              cases outcome_eq.symm.trans failed
          · cases failed
      | classDecl decl => exact called rfl failed
      | annotationUse type values => exact called rfl failed
      | parameterized base arguments =>
          dsimp only at failed
          split at failed
          · cases failed
          · exact called rfl failed
      | _ => cases failed

/-- A search for a name that is decided is decided by what the source leads to. -/
theorem goesBy_iff_of_fitsName {holds : Bool}
    (decided : ((graph.fitsName name source).tried (graph.run opened)).outcome = .ok holds) :
    holds = true ↔
      ∃ id, Relation.ReflTransGen graph.TakesNamesOf source id ∧ graph.GoesBy name id := by
  have found : (graph.fitsName name source).Holds (fun question =>
        (graph.run opened question).outcome = .ok true) ↔
      ∃ id, Relation.ReflTransGen graph.TakesNamesOf source id ∧ graph.GoesBy name id := by
    rw [holds_fitsName, leads_ancestors]
    exact exists_congr fun id => and_congr_right' (bearsName_iff_goesBy knows apart)
  cases holds with
  | true => exact iff_of_true rfl (found.mp (Goal.holds_of_tried (fun _ => id) decided))
  | false =>
      have sound (question : Question) (no : (graph.run opened question).outcome = .ok false) :
          ¬ (graph.run opened question).outcome = .ok true := by simp [no]
      exact iff_of_false Bool.false_ne_true
        (mt found.mpr (Goal.not_holds_of_tried sound decided))

theorem lacksWithin_of_fitsName {cause : Indeterminate}
    (failed : ((graph.fitsName name source).tried (graph.run opened)).outcome = .error cause) :
    graph.LacksWithin (Relation.ReflTransGen graph.TakesNamesOf source) cause := by
  obtain ⟨id, visited, id_failed⟩ := Goal.exists_of_any_fails failed
  obtain ⟨lacks, within⟩ := lacksWithin_of_bearsName knows apart id_failed
  have reaches := mem_walk_iff_takesNamesOf.mp visited
  refine ⟨lacks, ?_⟩
  cases cause with
  | danglingType other | notFullyQualified other => exact within ▸ reaches
  | depthExceeded limit | iterationsExceeded limit => trivial

/-- Where all that the source leads to is known, a search for a name is decided. -/
theorem outcome_fitsName (name : String)
    (known : ∀ id, Relation.ReflTransGen graph.TakesNamesOf source id → graph.Known id) :
    ∃ holds, ((graph.fitsName name source).tried (graph.run opened)).outcome = .ok holds ∧
      (holds = true ↔
        ∃ id, Relation.ReflTransGen graph.TakesNamesOf source id ∧ graph.GoesBy name id) := by
  cases decided : ((graph.fitsName name source).tried (graph.run opened)).outcome with
  | error cause =>
      have lacks := lacksWithin_of_fitsName knows apart decided
      exact absurd lacks (not_lacksWithin_of_known known)
  | ok holds => exact ⟨holds, rfl, goesBy_iff_of_fitsName knows apart decided⟩

end

end Graph

theorem Story.mem_encounters_of_followedBy {first second : Story} {turning : Bool}
    {encounter : Encounter} (member : encounter ∈ (first.followedBy turning second).encounters) :
    encounter ∈ first.encounters ∨ encounter ∈ second.encounters := by
  rw [followedBy] at member
  split at member
  · split at member
    · exact List.mem_append.mp member
    · exact Or.inl member
  · exact Or.inl member

/-- What comes up in the story of a goal comes up in the story of one of its questions. -/
theorem Goal.exists_of_mem_encounters {ask : Question → Story} {goal : Goal} {encounter : Encounter}
    (member : encounter ∈ (goal.told ask).encounters) :
    ∃ question, encounter ∈ (ask question).encounters := by
  induction goal with
  | decided _ | stuck _ => cases member
  | compare question => exact ⟨question, member⟩
  | both first second ihFirst ihSecond =>
      exact (Story.mem_encounters_of_followedBy member).elim ihFirst ihSecond
  | either first second ihFirst ihSecond =>
      exact (Story.mem_encounters_of_followedBy member).elim ihFirst (ihSecond ())

namespace Graph

variable {graph : Graph} {opened : List Question} {question : Question}

/-- Nothing comes up in what a comparison of primitives reduces to. -/
theorem encounters_of_comparesPrimitives (compares : graph.ComparesPrimitives question)
    {goal : Goal} (reduced : graph.step question = .reduced goal) (ask : Question → Story) :
    (goal.told ask).encounters = [] := by
  obtain ⟨target, target_eq⟩ := Option.isSome_iff_exists.mp compares.1
  obtain ⟨source, source_eq⟩ := Option.isSome_iff_exists.mp compares.2
  rw [primitive?_eq_some_iff] at target_eq source_eq
  obtain ⟨_, _, target_found, source_found, -, rfl⟩ := step_eq_reduced_iff.mp reduced
  obtain rfl := Option.some.inj (target_eq.symm.trans target_found)
  obtain rfl := Option.some.inj (source_eq.symm.trans source_found)
  rw [Graph.goal]
  split <;> rfl

/-- Nothing comes up while two primitives are compared, if they were not compared before. -/
theorem apart_of_mem_story (apart : ∀ other ∈ opened, ¬ graph.ComparesPrimitives other)
    {encounter : Encounter} (member : encounter ∈ (graph.story opened question).encounters) :
    ∀ other ∈ encounter.opened, ¬ graph.ComparesPrimitives other := by
  induction opened, question using graph.run_induction with
  | settled opened question outcome settled =>
      rw [story_of_settled settled] at member
      cases member
  | known opened question goal reduced known =>
      rw [story_of_open reduced known, List.mem_singleton] at member
      exact member ▸ apart
  | fresh opened question goal reduced fresh ih =>
      rw [story_of_fresh reduced fresh, Story.after, List.mem_cons] at member
      rcases member with rfl | within
      · exact apart
      · obtain ⟨other, other_member⟩ := Goal.exists_of_mem_encounters within
        refine ih other (List.forall_mem_cons.mpr ⟨fun compares => ?_, apart⟩) other_member
        rw [encounters_of_comparesPrimitives compares reduced] at within
        cases within

end Graph

/-- A search for the name of a class that is part of a longer search begins while no two primitives
are compared. -/
theorem Probe.apart_of_mem_story {env : Environment} {probe : Probe} {encounter : Encounter}
    (member : encounter ∈ (probe.story env).encounters) {decl : ClassDecl}
    (target_eq : env.toGraph.node encounter.question.target = some (.classDecl decl)) {guard : Guard}
    (tracks : guard.Tracks (encounter.question :: encounter.opened)) :
    ∀ question ∈ guard.active, ¬ env.toGraph.ComparesPrimitives question := by
  intro question active
  obtain ⟨first, first_member⟩ := Goal.exists_of_mem_encounters member
  rcases List.mem_cons.mp ((tracks.mem_iff question).mp active) with rfl | earlier
  · rintro ⟨primitive, -⟩
    simp [Graph.primitive?, target_eq] at primitive
  · exact Graph.apart_of_mem_story (fun _ none_open => by cases none_open) first_member _ earlier

theorem Store.Coherent.knowsPrimitives {store : Store} (coherent : store.Coherent) :
    store.graph.KnowsPrimitives := coherent.primitive_slot

namespace Store

variable {store : Store} {limits : Limits} {guard : Guard}

theorem goesBy_iff_of_prove (reached : store.Reached) {name : String} {source : TypeId}
    (apart : ∀ question ∈ guard.active, ¬ store.graph.ComparesPrimitives question) {holds : Bool}
    (decided : (store.graph.prove limits (store.graph.fitsName name source) guard).1 = .ok holds) :
    holds = true ↔ ∃ id, Relation.ReflTransGen store.graph.TakesNamesOf source id ∧
      store.graph.GoesBy name id := by
  have tracks := guard.tracks_toList
  have follows := Goal.solve_follows
    (fun question _ => store.graph.ask_follows_of_tracks limits question)
    (store.graph.fitsName name source) tracks
  have unopened : ∀ question ∈ guard.active.toList, ¬ store.graph.ComparesPrimitives question :=
    fun question member => apart question ((tracks.mem_iff question).mpr member)
  have outcome_eq := follows.outcome.symm.trans decided
  rw [Limits.outcome] at outcome_eq
  split at outcome_eq
  · cases outcome_eq
  · exact Graph.goesBy_iff_of_fitsName reached.coherent.knowsPrimitives unopened outcome_eq

/-- Within a longer search, too, a search for the name of a class that is decided is decided by what
the source leads to. -/
theorem goesBy_iff_of_encounter (reached : store.Reached) {probe : Probe} {encounter : Encounter}
    (member : encounter ∈ (probe.story store.environment).encounters) {decl : ClassDecl}
    (target_eq : store.graph.node encounter.question.target = some (.classDecl decl))
    (tracks : guard.Tracks (encounter.question :: encounter.opened)) {holds : Bool}
    (decided : (store.graph.prove limits
      (store.graph.fitsName decl.name encounter.question.source) guard).1 = .ok holds) :
    holds = true ↔ ∃ id,
      Relation.ReflTransGen store.graph.TakesNamesOf encounter.question.source id ∧
        store.graph.GoesBy decl.name id :=
  goesBy_iff_of_prove reached (Probe.apart_of_mem_story member target_eq tracks) decided

/-- A search for a name in a store, made while no two primitives are compared, is reachability.  Its
walk comes to its own end on every graph.  If it is decided, it finds the name exactly if the source
leads to a type that goes by it.  Unless too many questions are open before it starts, it fails only
for what is missing at a type that the source leads to, or for the number of questions, if the walk
visits more primitives than the limits permit. -/
theorem fitsName_iff_reaches {store : Store} (reached : store.Reached) (limits : Limits)
    (name : String) (source : TypeId) (guard : Guard)
    (apart : ∀ question ∈ guard.active, ¬ store.graph.ComparesPrimitives question) :
    let graph := store.graph
    let visited := graph.walk graph.ancestors source
    let outcome := (graph.prove limits (graph.fitsName name source) guard).1
    (∀ more, Graph.walkFrom graph.ancestors (graph.size + 1 + more) ∅ [source] = visited) ∧
    (∀ holds, outcome = .ok holds → (holds = true ↔
      ∃ id, Relation.ReflTransGen graph.TakesNamesOf source id ∧ graph.GoesBy name id)) ∧
    (guard.depth < limits.maxDepth.toNat → ∀ cause, outcome = .error cause →
      graph.LacksWithin (Relation.ReflTransGen graph.TakesNamesOf source) cause ∨
        cause = .iterationsExceeded limits.maxIterations ∧
          ¬ limits.Permits (guard.entries +
            visited.toList.countP fun id => (graph.primitive? id).isSome)) := by
  intro graph visited outcome
  let opened := guard.active.toList
  have tracks : guard.Tracks opened := guard.tracks_toList
  have knows : graph.KnowsPrimitives := reached.coherent.knowsPrimitives
  have unopened : ∀ question ∈ opened, ¬ graph.ComparesPrimitives question :=
    fun question member => apart question ((tracks.mem_iff question).mpr member)
  have outcome_eq : outcome =
      limits.outcome guard.entries ((graph.fitsName name source).tried (graph.run opened)) :=
    (Goal.solve_follows (fun question _ => graph.ask_follows_of_tracks limits question)
      (graph.fitsName name source) tracks).outcome
  refine ⟨fun more => ?_, fun holds => goesBy_iff_of_prove reached apart,
    fun shallow cause failed => ?_⟩
  · exact Graph.walkFrom_of_more Graph.ancestors_inside
      (Nat.lt_succ_of_le (Graph.unentered_le graph.size ∅)) more
  · rw [outcome_eq, Limits.outcome] at failed
    split at failed
    · next other exceeded =>
        obtain rfl := Except.error.inj failed
        obtain ⟨count, count_le, depths_eq⟩ : Run.StaysAt _ _ _ :=
          Goal.staysAt_any (fun _ => Graph.staysAt_bearsName knows unopened) visited
        have same_depths : ((graph.fitsName name source).tried (graph.run opened)).depths =
            List.replicate count opened.length := depths_eq
        rw [same_depths] at exceeded
        obtain ⟨cause_eq, refused⟩ :=
          Limits.exceeded?_replicate (tracks.depth_eq ▸ shallow) exceeded
        exact Or.inr ⟨cause_eq,
          fun permits => refused (permits.of_le (Nat.add_le_add_left count_le _))⟩
    · exact Or.inl (Graph.lacksWithin_of_fitsName knows unopened failed)

/-- A store with two classes that extend each other, one of which implements an interface that is
not there, and with a type variable bounded by `int` and that class. -/
def mutualClasses : Store :=
  empty.run
    [.reserve, .add (.classDecl { name := "p.B", supertype := some ⟨13⟩ }), .reserve,
      .define ⟨13⟩ (.classDecl { name := "p.A", supertype := some ⟨14⟩, interfaces := [⟨15⟩] }),
      .add (.typeVariable { name := "T", bounds := [primitive .int, ⟨13⟩] })]

theorem fitsName_iff_reaches_of_mutualClasses :
    let graph := mutualClasses.graph
    mutualClasses.Reached ∧
      (∀ question ∈ ({} : Guard).active, ¬ graph.ComparesPrimitives question) ∧
      (graph.prove {} (graph.fitsName "long" ⟨16⟩) {}).1 = .ok true ∧
      (∃ id, Relation.ReflTransGen graph.TakesNamesOf ⟨16⟩ id ∧ graph.GoesBy "long" id) ∧
      (graph.prove {} (graph.fitsName "p.C" ⟨16⟩) {}).1 = .error (.danglingType ⟨15⟩) ∧
      graph.LacksWithin (Relation.ReflTransGen graph.TakesNamesOf ⟨16⟩) (.danglingType ⟨15⟩) := by
  intro graph
  have reached : mutualClasses.Reached := ⟨empty, _, .empty, rfl⟩
  have apart : ∀ question ∈ ({} : Guard).active, ¬ graph.ComparesPrimitives question :=
    fun question known => absurd ((Guard.tracks_nil.mem_iff question).mp known) List.not_mem_nil
  have found : (graph.prove {} (graph.fitsName "long" ⟨16⟩) {}).1 = .ok true := by decide +kernel
  have failed : (graph.prove {} (graph.fitsName "p.C" ⟨16⟩) {}).1 =
      .error (.danglingType ⟨15⟩) := by decide +kernel
  have long := (fitsName_iff_reaches reached {} "long" ⟨16⟩ {} apart).2.1 true found
  have lacks := (fitsName_iff_reaches reached {} "p.C" ⟨16⟩ {} apart).2.2 (by decide) _ failed
  exact ⟨reached, apart, found, long.mp rfl, failed, lacks.resolve_right (by simp)⟩

end Store
end JavaTypes
