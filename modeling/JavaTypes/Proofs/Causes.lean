import JavaTypes.Proofs.Enclosure
import JavaTypes.Proofs.Run

/-!
# Why a question has no answer

Without limits a question goes unanswered only if it depends on a reference that leads nowhere, or
on the name of a parameterized type or an annotation that has no class behind it.  The type that is
to blame belongs to every enclosed part of the graph that holds the two types of the question.
-/

namespace JavaTypes

/-- Whether a relation may be asked about any two types of a part of a graph. -/
def Relation.MayAsk (relation : Relation) (asks : Question → Prop) (inside : TypeId → Prop) :
    Prop :=
  ∀ mode target source, inside target → inside source → asks { relation, target, source, mode }

/-- Whether a question is about types of a part of a graph. -/
def Question.IsWithin (inside : TypeId → Prop) (question : Question) : Prop :=
  inside question.target ∧ inside question.source

/-- Whether a cause blames no type outside a part of a graph. -/
def Indeterminate.IsWithin (inside : TypeId → Prop) : Indeterminate → Prop
  | danglingType id | notFullyQualified id => inside id
  | depthExceeded _ | iterationsExceeded _ => True

theorem Relation.mayAsk_isWithin (relation : Relation) (inside : TypeId → Prop) :
    relation.MayAsk (Question.IsWithin inside) inside :=
  fun _ _ _ target_in source_in => ⟨target_in, source_in⟩

namespace Goal

/-- Whether all questions and all causes that occur in a goal have given properties. -/
def Mentions (asks : Question → Prop) (fails : Indeterminate → Prop) : Goal → Prop
  | decided _ => True
  | stuck cause => fails cause
  | compare question => asks question
  | both first second => first.Mentions asks fails ∧ second.Mentions asks fails
  | either first second => first.Mentions asks fails ∧ (second ()).Mentions asks fails

variable {asks : Question → Prop} {fails : Indeterminate → Prop}

theorem Mentions.mono {more : Question → Prop} {moreFails : Indeterminate → Prop} {goal : Goal}
    (mentions : goal.Mentions asks fails) (asks_le : ∀ question, asks question → more question)
    (fails_le : ∀ cause, fails cause → moreFails cause) : goal.Mentions more moreFails := by
  induction goal with
  | decided answer => trivial
  | stuck cause => exact fails_le cause mentions
  | compare question => exact asks_le question mentions
  | both first second ihFirst ihSecond => exact ⟨ihFirst mentions.1, ihSecond mentions.2⟩
  | either first second ihFirst ihSecond => exact ⟨ihFirst mentions.1, ihSecond () mentions.2⟩

theorem mentions_all {goals : List Goal} (each : ∀ goal ∈ goals, goal.Mentions asks fails) :
    (all goals).Mentions asks fails := by
  induction goals with
  | nil => trivial
  | cons goal goals ih =>
      obtain ⟨first, rest⟩ := List.forall_mem_cons.mp each
      exact ⟨first, ih rest⟩

theorem mentions_any {goals : LazyList Goal}
    (each : ∀ goal ∈ goals.toList, goal.Mentions asks fails) : (any goals).Mentions asks fails := by
  induction goals with
  | nil => trivial
  | cons goal goals ih =>
      obtain ⟨first, rest⟩ := List.forall_mem_cons.mp each
      exact ⟨first, ih () rest⟩

theorem mentions_zipWith {α β : Type} {relation : α → β → Goal} {targets : List α}
    {sources : List β}
    (each : ∀ target ∈ targets, ∀ source ∈ sources, (relation target source).Mentions asks fails) :
    ∀ goal ∈ List.zipWith relation targets sources, goal.Mentions asks fails := by
  intro goal member
  rw [← List.map_uncurry_zip_eq_zipWith] at member
  obtain ⟨⟨target, source⟩, found, rfl⟩ := List.mem_map.mp member
  obtain ⟨target_mem, source_mem⟩ := List.of_mem_zip found
  exact each target target_mem source source_mem

theorem mentions_pairwise {relation : TypeId → TypeId → Goal} {targets sources : List TypeId}
    (each : ∀ target ∈ targets, ∀ source ∈ sources, (relation target source).Mentions asks fails) :
    (pairwise relation targets sources).Mentions asks fails := by
  rw [pairwise]
  split
  · exact mentions_all (mentions_zipWith each)
  · trivial

/-- A goal that is tried without success fails for a cause that it mentions itself, or that comes of
a question. -/
theorem fails_of_tried {ask : Question → Run} {goal : Goal} {cause : Indeterminate}
    (mentions : goal.Mentions asks fails)
    (ask_fails : ∀ question, asks question → (ask question).outcome = .error cause → fails cause)
    (failed : (goal.tried ask).outcome = .error cause) : fails cause := by
  induction goal with
  | decided answer => simp [tried] at failed
  | stuck other =>
      rw [tried, Except.error.injEq] at failed
      exact failed ▸ mentions
  | compare question => exact ask_fails question mentions failed
  | both first second ihFirst ihSecond =>
      rcases Run.outcome_followedBy_eq_error.mp failed with first_failed | ⟨_, second_failed⟩
      · exact ihFirst mentions.1 first_failed
      · exact ihSecond mentions.2 second_failed
  | either first second ihFirst ihSecond =>
      rcases Run.outcome_followedBy_eq_error.mp failed with first_failed | ⟨_, second_failed⟩
      · exact ihFirst mentions.1 first_failed
      · exact ihSecond () mentions.2 second_failed

section Sameness

variable {inside : TypeId → Prop} {mode : Mode} (asked : Relation.ofType.MayAsk asks inside)

include asked

theorem mentions_sameTypes {targets sources : List TypeId} (targets_in : ∀ id ∈ targets, inside id)
    (sources_in : ∀ id ∈ sources, inside id) :
    (pairwise (sameType mode) targets sources).Mentions asks fails :=
  mentions_pairwise fun target target_mem source source_mem =>
    asked mode target source (targets_in target target_mem) (sources_in source source_mem)

theorem mentions_singleInArray {single array : ElementContent}
    (single_in : ∀ id ∈ single.referenceList, inside id)
    (array_in : ∀ id ∈ array.referenceList, inside id) :
    (singleInArray single array).Mentions asks fails := by
  rw [singleInArray.eq_def]
  split
  · exact asked _ _ _ (single_in _ List.mem_cons_self) (array_in _ List.mem_cons_self)
  · trivial
  · trivial

theorem mentions_sameContent {left right : ElementContent}
    (left_in : ∀ id ∈ left.referenceList, inside id)
    (right_in : ∀ id ∈ right.referenceList, inside id) :
    (sameContent left right).Mentions asks fails := by
  rw [sameContent.eq_def]
  split
  case h_2 => exact asked _ _ _ (left_in _ List.mem_cons_self) (right_in _ List.mem_cons_self)
  case h_4 => exact mentions_sameTypes asked left_in right_in
  case h_5 | h_6 => exact mentions_singleInArray asked left_in right_in
  case h_7 | h_8 => exact mentions_singleInArray asked right_in left_in
  all_goals trivial

theorem mentions_sameUse {targetType sourceType : TypeId} {targets sources : List ElementValue}
    (targets_in : ∀ id ∈ (Node.annotationUse targetType targets).references, inside id)
    (sources_in : ∀ id ∈ (Node.annotationUse sourceType sources).references, inside id) :
    (sameUse targetType sourceType targets sources).Mentions asks fails := by
  have in_value {type : TypeId} {values : List ElementValue} {value : ElementValue}
      (values_in : ∀ id ∈ (Node.annotationUse type values).references, inside id)
      (member : value ∈ values) : ∀ id ∈ value.element :: value.content.referenceList, inside id :=
    fun id listed => values_in id (List.mem_cons_of_mem type
      (List.mem_flatMap.mpr ⟨value, member, listed⟩))
  refine ⟨asked _ _ _ (targets_in _ List.mem_cons_self) (sources_in _ List.mem_cons_self), ?_⟩
  split
  · refine mentions_all (mentions_zipWith fun left left_mem right right_mem => ?_)
    obtain ⟨left_element, left_content⟩ := List.forall_mem_cons.mp (in_value targets_in left_mem)
    obtain ⟨right_element, right_content⟩ :=
      List.forall_mem_cons.mp (in_value sources_in right_mem)
    exact ⟨asked _ _ _ left_element right_element,
      mentions_sameContent asked left_content right_content⟩
  · trivial

theorem mentions_sameVariable {target source : TypeVariable}
    (targets_in : ∀ id ∈ target.bounds, inside id) (sources_in : ∀ id ∈ source.bounds, inside id) :
    (sameVariable mode target source).Mentions asks fails := by
  rw [sameVariable]
  split
  · exact mentions_sameTypes asked targets_in sources_in
  · trivial

theorem mentions_sameMethod {target source : MethodDecl}
    (target_in : ∀ id ∈ target.references, inside id)
    (source_in : ∀ id ∈ source.references, inside id) :
    (sameMethod mode target source).Mentions asks fails := by
  simp only [MethodDecl.references, List.forall_mem_cons, List.forall_mem_append]
    at target_in source_in
  obtain ⟨declaring, result, parameters, thrown⟩ := target_in
  obtain ⟨declaringToo, resultToo, parametersToo, thrownToo⟩ := source_in
  rw [sameMethod]
  split
  · exact ⟨asked _ _ _ declaring declaringToo, asked _ _ _ result resultToo,
      mentions_sameTypes asked parameters parametersToo,
      mentions_sameTypes asked thrown thrownToo, trivial⟩
  · trivial

theorem mentions_sameOptional {target source : Option TypeId} (target_in : ∀ id ∈ target, inside id)
    (source_in : ∀ id ∈ source, inside id) :
    (sameOptional mode target source).Mentions asks fails := by
  cases target with
  | none => cases source <;> trivial
  | some target =>
      cases source with
      | none => trivial
      | some source => exact asked _ _ _ (target_in _ rfl) (source_in _ rfl)

theorem mentions_sameDeclared {target source : VariableDecl}
    (target_in : ∀ id ∈ target.references, inside id)
    (source_in : ∀ id ∈ source.references, inside id) :
    (both (sameType mode target.type source.type)
      (sameOptional mode target.owner source.owner)).Mentions asks fails := by
  obtain ⟨type, owner⟩ := List.forall_mem_cons.mp target_in
  obtain ⟨typeToo, ownerToo⟩ := List.forall_mem_cons.mp source_in
  refine ⟨asked _ _ _ type typeToo, mentions_sameOptional asked ?_ ?_⟩
  · exact fun id found => owner id (Option.mem_toList.mpr found)
  · exact fun id found => ownerToo id (Option.mem_toList.mpr found)

end Sameness

end Goal

namespace Node

/-- The references of a node that an equality may follow: type arguments, bounds, the types of a
declaration and all that an annotation is written with.  A class is known by its name alone. -/
def compared : Node → List TypeId
  | parameterized _ arguments => arguments
  | array element => [element]
  | typeVariable decl => decl.bounds
  | variableDecl decl => decl.references
  | methodDecl decl => decl.references
  | annotationUse type values => (annotationUse type values).references
  | primitive _ | unknown | classDecl _ | intersection _ | multiCatch _ => []

theorem mem_references_of_compared {node : Node} {id : TypeId} (listed : id ∈ node.compared) :
    id ∈ node.references := by
  cases node with
  | parameterized base arguments => exact List.mem_cons_of_mem base listed
  | primitive _ | unknown | classDecl _ | intersection _ | multiCatch _ => cases listed
  | array _ | typeVariable _ | variableDecl _ | methodDecl _ | annotationUse _ _ => exact listed

end Node

namespace Graph

/-- Whether a graph lacks what a cause without limits says that it lacks. -/
def Lacks (graph : Graph) : Indeterminate → Prop
  | .danglingType id => graph.node id = none
  | .notFullyQualified id =>
      (∃ base arguments, graph.node id = some (.parameterized base arguments) ∧
        graph.classDecl? base = none) ∨
      ∃ type values, graph.node id = some (.annotationUse type values) ∧
        graph.classDecl? type = none
  | .depthExceeded _ | .iterationsExceeded _ => False

variable {graph : Graph} {inside : TypeId → Prop} {id : TypeId}

theorem lacks_name {node : Node} (node_eq : graph.node id = some node)
    (nominal : node.isNominal = true) (unnamed : graph.qualifiedName id = none) :
    graph.Lacks (.notFullyQualified id) := by
  have no_class : graph.classBehind id = none := Option.map_eq_none_iff.mp unnamed
  rw [classBehind, node_eq] at no_class
  cases node with
  | classDecl decl => simp at no_class
  | parameterized base arguments => exact Or.inl ⟨base, arguments, node_eq, no_class⟩
  | annotationUse type values => exact Or.inr ⟨type, values, node_eq, no_class⟩
  | _ => simp [Node.isNominal] at nominal

/-- Whether a graph lacks what a cause says, and the cause blames a type of a given part. -/
def LacksWithin (graph : Graph) (inside : TypeId → Prop) (cause : Indeterminate) : Prop :=
  graph.Lacks cause ∧ cause.IsWithin inside

/-- Whether a type is defined, and has a class if it is nominal. -/
def Known (graph : Graph) (id : TypeId) : Prop :=
  ∃ node, graph.node id = some node ∧ (node.isNominal = true → (graph.classBehind id).isSome)

theorem not_lacksWithin_of_known {cause : Indeterminate}
    (known : ∀ id, inside id → graph.Known id) : ¬ graph.LacksWithin inside cause := by
  rintro ⟨lacks, within⟩
  cases cause with
  | danglingType id =>
      obtain ⟨node, node_eq, -⟩ := known id within
      cases node_eq.symm.trans lacks
  | notFullyQualified id =>
      obtain ⟨node, node_eq, named⟩ := known id within
      rcases lacks with ⟨base, arguments, own_eq, unnamed⟩ | ⟨type, values, own_eq, unnamed⟩
      all_goals
        obtain rfl := Option.some.inj (node_eq.symm.trans own_eq)
        simp [classBehind, node_eq, unnamed, Node.isNominal] at named
  | depthExceeded limit | iterationsExceeded limit => exact lacks

/-- Whether a goal asks only about types of a part and gets stuck only for what the graph lacks
there. -/
abbrev Confines (graph : Graph) (inside : TypeId → Prop) (goal : Goal) : Prop :=
  goal.Mentions (Question.IsWithin inside) (graph.LacksWithin inside)

theorem confines_withNode {next : Node → Goal} (id_in : inside id)
    (each : ∀ node, graph.node id = some node → graph.Confines inside (next node)) :
    graph.Confines inside (graph.withNode id next) := by
  rw [withNode]
  split
  · next node node_eq => exact each node node_eq
  · next undefined => exact ⟨undefined, id_in⟩

theorem mentions_withName {asks : Question → Prop} {node : Node} {next : String → Goal}
    (id_in : inside id) (node_eq : graph.node id = some node) (nominal : node.isNominal = true)
    (each : ∀ name, graph.qualifiedName id = some name →
      (next name).Mentions asks (graph.LacksWithin inside)) :
    (graph.withName id next).Mentions asks (graph.LacksWithin inside) := by
  rw [withName]
  split
  · next name named => exact each name named
  · next unnamed => exact ⟨lacks_name node_eq nominal unnamed, id_in⟩

theorem confines_withName {node : Node} {next : String → Goal} (id_in : inside id)
    (node_eq : graph.node id = some node) (nominal : node.isNominal = true)
    (each : ∀ name, graph.Confines inside (next name)) :
    graph.Confines inside (graph.withName id next) :=
  mentions_withName id_in node_eq nominal fun name _ => each name

/-- Whether an equality that is asked about a type may go on to another: a type that has to have a
name is looked into only if it has one. -/
def LooksAt (graph : Graph) (id next : TypeId) : Prop :=
  ∃ node, graph.node id = some node ∧
    (node.isNominal = true → (graph.qualifiedName id).isSome) ∧ next ∈ node.compared

section

variable {question : Question} {targetNode sourceNode : Node} {mode : Mode}

section

variable {asks : Question → Prop} (asked : Relation.ofType.MayAsk asks inside)
  (keeps : ∀ id, inside id → ∀ next, graph.LooksAt id next → inside next)

include asked keeps

theorem mentions_sameNominal (within : question.IsWithin inside)
    (target_eq : graph.node question.target = some targetNode)
    (source_eq : graph.node question.source = some sourceNode)
    (target_nominal : targetNode.isNominal = true) (source_nominal : sourceNode.isNominal = true) :
    (graph.sameNominal question targetNode sourceNode).Mentions asks
      (graph.LacksWithin inside) := by
  refine mentions_withName within.1 target_eq target_nominal fun targetName target_named => ?_
  refine mentions_withName within.2 source_eq source_nominal fun sourceName source_named => ?_
  have target_in : ∀ id ∈ targetNode.compared, inside id := fun id listed =>
    keeps _ within.1 id ⟨targetNode, target_eq, fun _ => target_named ▸ rfl, listed⟩
  have source_in : ∀ id ∈ sourceNode.compared, inside id := fun id listed =>
    keeps _ within.2 id ⟨sourceNode, source_eq, fun _ => source_named ▸ rfl, listed⟩
  split
  · split
    · trivial
    · exact Goal.mentions_sameTypes asked target_in source_in
    · exact Goal.mentions_sameUse asked target_in source_in
    · trivial
  · trivial

/-- An equality asks only about types that it looks at. -/
theorem mentions_equality (within : question.IsWithin inside)
    (target_eq : graph.node question.target = some targetNode)
    (source_eq : graph.node question.source = some sourceNode) :
    (graph.equalityGoal question targetNode sourceNode).Mentions asks
      (graph.LacksWithin inside) := by
  have target_in (unnamed : targetNode.isNominal = false) : ∀ id ∈ targetNode.compared, inside id :=
    fun id listed => keeps _ within.1 id ⟨targetNode, target_eq, by simp [unnamed], listed⟩
  have source_in (unnamed : sourceNode.isNominal = false) : ∀ id ∈ sourceNode.compared, inside id :=
    fun id listed => keeps _ within.2 id ⟨sourceNode, source_eq, by simp [unnamed], listed⟩
  rw [equalityGoal.eq_def]
  split
  · trivial
  · exact asked _ _ _ (target_in rfl _ List.mem_cons_self) (source_in rfl _ List.mem_cons_self)
  · exact Goal.mentions_sameVariable asked (target_in rfl) (source_in rfl)
  · exact Goal.mentions_sameMethod asked (target_in rfl) (source_in rfl)
  · exact Goal.mentions_sameDeclared asked (target_in rfl) (source_in rfl)
  · split
    · next nominal =>
        obtain ⟨target_nominal, source_nominal⟩ := Bool.and_eq_true_iff.mp nominal
        exact mentions_sameNominal asked keeps within target_eq source_eq target_nominal
          source_nominal
    · trivial

end

variable (encloses : graph.Encloses inside)

include encloses

theorem confines_equalityGoal (within : question.IsWithin inside)
    (target_eq : graph.node question.target = some targetNode)
    (source_eq : graph.node question.source = some sourceNode) :
    graph.Confines inside (graph.equalityGoal question targetNode sourceNode) := by
  refine mentions_equality (Relation.ofType.mayAsk_isWithin inside) ?_ within target_eq source_eq
  rintro id id_in next ⟨node, node_eq, -, listed⟩
  exact encloses.references id_in node_eq next (Node.mem_references_of_compared listed)

theorem confines_withinWildcard {wildcard : TypeVariable} {bound argument : TypeId}
    (bound_in : inside bound) (argument_in : inside argument) :
    graph.Confines inside (graph.withinWildcard mode wildcard bound argument) := by
  refine confines_withNode argument_in fun argumentNode node_eq => ?_
  have offered_in : ∀ offered ∈ wildcard.offered? argument argumentNode, inside offered := by
    intro offered found
    rw [TypeVariable.offered?.eq_def] at found
    split at found
    · split_ifs at found
      · exact encloses.references argument_in node_eq offered (List.mem_of_mem_head? found)
      · cases found
      · exact Option.some.inj found ▸ argument_in
    · exact Option.some.inj found ▸ argument_in
  split
  · next offered found =>
      rw [TypeVariable.admits]
      split
      · exact ⟨bound_in, offered_in offered found⟩
      · exact ⟨offered_in offered found, bound_in⟩
      · trivial
  · trivial

theorem confines_argumentFits {target source : TypeId} (target_in : inside target)
    (source_in : inside source) :
    graph.Confines inside (graph.argumentFits mode target source) := by
  refine confines_withNode target_in fun targetNode node_eq => ?_
  split
  · split
    · split
      · trivial
      · next bound _ bounds_eq =>
          have bounds_in := encloses.references target_in node_eq
          rw [Node.references, bounds_eq] at bounds_in
          have bound_in := bounds_in bound List.mem_cons_self
          exact confines_withinWildcard encloses bound_in source_in
    · exact ⟨target_in, source_in⟩
  · exact ⟨target_in, source_in⟩

omit encloses in
theorem confines_acceptsAnything {argument : TypeId} (argument_in : inside argument) :
    graph.Confines inside (graph.acceptsAnything argument) := by
  refine confines_withNode argument_in fun node _ => ?_
  split <;> trivial

theorem confines_assignableToParameterized {base : TypeId} {arguments : List TypeId}
    (within : question.IsWithin inside)
    (target_eq : graph.node question.target = some (.parameterized base arguments))
    (source_eq : graph.node question.source = some sourceNode) :
    graph.Confines inside
      (graph.assignableToParameterized question base arguments sourceNode) := by
  have target_in := encloses.references within.1 target_eq
  obtain ⟨base_in, arguments_in⟩ := List.forall_mem_cons.mp target_in
  rw [assignableToParameterized.eq_def]
  split
  · split
    · obtain ⟨sourceBase_in, offered_in⟩ :=
        List.forall_mem_cons.mp (encloses.references within.2 source_eq)
      refine ⟨⟨base_in, sourceBase_in⟩, Goal.mentions_all (Goal.mentions_zipWith ?_)⟩
      exact fun target target_mem source source_mem => confines_argumentFits encloses
        (arguments_in target target_mem) (offered_in source source_mem)
    · trivial
  · refine ⟨Goal.mentions_all fun goal member => ?_, base_in, within.2⟩
    obtain ⟨argument, argument_mem, rfl⟩ := List.mem_map.mp member
    exact confines_acceptsAnything (arguments_in argument argument_mem)

theorem confines_bearsName (name : String) (id_in : inside id) :
    graph.Confines inside (graph.bearsName name id) := by
  refine confines_withNode id_in fun node node_eq => ?_
  split
  · split
    · exact ⟨encloses.primitive _, id_in⟩
    · trivial
  · exact confines_withName id_in node_eq rfl fun own => trivial
  · exact confines_withName id_in node_eq rfl fun own => trivial
  · split
    · trivial
    · exact confines_withName id_in node_eq rfl fun own => trivial
  all_goals trivial

theorem confines_fitsName (name : String) {source : TypeId} (source_in : inside source) :
    graph.Confines inside (graph.fitsName name source) := by
  refine Goal.mentions_any fun goal member => ?_
  rw [LazyList.toList_map] at member
  obtain ⟨id, visited, rfl⟩ := List.mem_map.mp member
  exact confines_bearsName encloses name
    (encloses.keepsInside_ancestors.mem_walk ancestors_defined source_in visited)

theorem confines_assignableToClass (within : question.IsWithin inside)
    (target_eq : graph.node question.target = some targetNode)
    (source_eq : graph.node question.source = some sourceNode)
    (target_nominal : targetNode.isNominal = true) :
    graph.Confines inside (graph.assignableToClass question sourceNode) := by
  rw [assignableToClass.eq_def]
  split
  · split
    · next boxed boxed_eq =>
        obtain ⟨name, -, registered⟩ := Option.bind_eq_some_iff.mp boxed_eq
        exact ⟨within.1, encloses.registered registered⟩
    · trivial
  · refine Goal.mentions_any fun goal member => ?_
    rw [LazyList.toList_map, LazyList.toList_ofList] at member
    obtain ⟨bound, bound_mem, rfl⟩ := List.mem_map.mp member
    exact ⟨within.1, encloses.references within.2 source_eq bound bound_mem⟩
  · trivial
  · exact confines_withName within.1 target_eq target_nominal fun name =>
      confines_fitsName encloses name within.2

theorem confines_assignableToArray {element : TypeId} (within : question.IsWithin inside)
    (target_eq : graph.node question.target = some (.array element))
    (source_eq : graph.node question.source = some sourceNode) :
    graph.Confines inside (graph.assignableToArray question element sourceNode) := by
  have element_in := encloses.references within.1 target_eq element List.mem_cons_self
  rw [assignableToArray.eq_def]
  split
  · next sourceElement =>
      have source_in := encloses.references within.2 source_eq sourceElement List.mem_cons_self
      refine confines_withNode element_in fun elementNode _ => ?_
      split <;> exact ⟨element_in, source_in⟩
  · trivial

omit encloses in
theorem confines_assignableToPrimitive (kind : Primitive) (within : question.IsWithin inside)
    (source_eq : graph.node question.source = some sourceNode) :
    graph.Confines inside (graph.assignableToPrimitive question kind sourceNode) := by
  rw [assignableToPrimitive.eq_def]
  split
  · trivial
  · split
    · next nominal => exact confines_withName within.2 source_eq nominal fun name => trivial
    · trivial

theorem confines_assignabilityGoal (within : question.IsWithin inside)
    (target_eq : graph.node question.target = some targetNode)
    (source_eq : graph.node question.source = some sourceNode) :
    graph.Confines inside (graph.assignabilityGoal question targetNode sourceNode) := by
  have target_in := encloses.references within.1 target_eq
  cases targetNode with
  | parameterized base arguments =>
      exact confines_assignableToParameterized encloses within target_eq source_eq
  | classDecl decl => exact confines_assignableToClass encloses within target_eq source_eq rfl
  | annotationUse type values =>
      exact confines_assignableToClass encloses within target_eq source_eq rfl
  | array element => exact confines_assignableToArray encloses within target_eq source_eq
  | primitive kind => exact confines_assignableToPrimitive kind within source_eq
  | variableDecl decl => exact ⟨target_in _ List.mem_cons_self, within.2⟩
  | methodDecl decl =>
      exact ⟨target_in _ (List.mem_cons_of_mem _ List.mem_cons_self), within.2⟩
  | _ => trivial

theorem confines_of_reduced {goal : Goal} (within : question.IsWithin inside)
    (reduced : graph.step question = .reduced goal) : graph.Confines inside goal := by
  obtain ⟨targetNode, sourceNode, target_eq, source_eq, -, rfl⟩ := step_eq_reduced_iff.mp reduced
  rw [Graph.goal]
  split
  · exact confines_equalityGoal encloses within target_eq source_eq
  · exact confines_assignabilityGoal encloses within target_eq source_eq

omit encloses in
theorem lacksWithin_of_settled {cause : Indeterminate} (within : question.IsWithin inside)
    (settled : graph.step question = .settled (.error cause)) : graph.LacksWithin inside cause := by
  rw [step] at settled
  split at settled
  · next undefined =>
      rw [Step.settled.injEq, Except.error.injEq] at settled
      exact settled ▸ ⟨undefined, within.1⟩
  · next undefined =>
      rw [Step.settled.injEq, Except.error.injEq] at settled
      exact settled ▸ ⟨undefined, within.2⟩
  · split at settled <;> cases settled

omit encloses in
/-- If questions of one sort lead only to such questions, all of them about types of one part, a run
that ends without an answer says accurately what the graph lacks there. -/
theorem lacksWithin_of_asks {asks : Question → Prop} {opened : List Question}
    {cause : Indeterminate} (within : ∀ question, asks question → question.IsWithin inside)
    (mentions : ∀ question goal, asks question → graph.step question = .reduced goal →
      goal.Mentions asks (graph.LacksWithin inside))
    (asked : asks question) (failed : (graph.run opened question).outcome = .error cause) :
    graph.LacksWithin inside cause := by
  induction opened, question using graph.run_induction with
  | settled opened question outcome settled =>
      rw [run_of_settled settled] at failed
      exact lacksWithin_of_settled (within question asked)
        (settled.trans (congrArg Step.settled failed))
  | known opened question goal reduced known =>
      rw [run_of_open reduced known] at failed
      cases failed
  | fresh opened question goal reduced fresh ih =>
      rw [run_of_fresh reduced fresh] at failed
      exact Goal.fails_of_tried (mentions question goal asked reduced)
        (fun other other_asked => ih other other_asked) failed

/-- A run between types of an enclosed part that ends without an answer says accurately what the
graph lacks there. -/
theorem lacksWithin_of_run {opened : List Question} {cause : Indeterminate}
    (within : question.IsWithin inside)
    (failed : (graph.run opened question).outcome = .error cause) :
    graph.LacksWithin inside cause :=
  lacksWithin_of_asks (fun _ => id)
    (fun _ _ asked reduced => confines_of_reduced encloses asked reduced) within failed

omit encloses in
/-- A run for an equality that ends without an answer says accurately what the graph lacks among the
types that equalities look at. -/
theorem lacksWithin_of_equality {opened : List Question} {cause : Indeterminate}
    (keeps : ∀ id, inside id → ∀ next, graph.LooksAt id next → inside next)
    (equality : question.relation = .ofType) (within : question.IsWithin inside)
    (failed : (graph.run opened question).outcome = .error cause) :
    graph.LacksWithin inside cause := by
  let asks (question : Question) : Prop := question.relation = .ofType ∧ question.IsWithin inside
  have asked : Relation.ofType.MayAsk asks inside :=
    fun _ _ _ target_in source_in => ⟨rfl, target_in, source_in⟩
  have bounded (question : Question) (asked : asks question) : question.IsWithin inside := asked.2
  refine lacksWithin_of_asks bounded ?_ ⟨equality, within⟩ failed
  rintro question goal ⟨equality, within⟩ reduced
  obtain ⟨targetNode, sourceNode, target_eq, source_eq, -, rfl⟩ := step_eq_reduced_iff.mp reduced
  rw [Graph.goal, equality]
  exact mentions_equality asked keeps within target_eq source_eq

end

/-- A run that ends without an answer says accurately what the graph lacks. -/
theorem lacks_of_run {opened : List Question} {question : Question} {cause : Indeterminate}
    (failed : (graph.run opened question).outcome = .error cause) : graph.Lacks cause :=
  (lacksWithin_of_run graph.encloses_all ⟨trivial, trivial⟩ failed).1

end Graph
end JavaTypes
