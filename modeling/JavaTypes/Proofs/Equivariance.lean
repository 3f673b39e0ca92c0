import JavaTypes.Proofs.Renaming

/-!
# Questions under other identities

Each definition that a query goes through reads of a graph only what `RenamesTo` lists, and nothing
in it depends on the order of identities.  So each commutes with a renaming, up to the run of a
question and the candidates of a search for a method.
-/

namespace JavaTypes

/-- What becomes of a question, under other identities. -/
def Step.renamed (rename : TypeId → TypeId) : Step → Step
  | settled outcome => settled (outcome.mapError (Indeterminate.renamed rename))
  | reduced goal => reduced (goal.renamed rename)

/-- A run under other identities. -/
def Run.renamed (rename : TypeId → TypeId) (run : Run) : Run :=
  { run with outcome := run.outcome.mapError (Indeterminate.renamed rename) }

theorem Run.followedBy_renamed (rename : TypeId → TypeId) (turning : Bool) (first second : Run) :
    (first.renamed rename).followedBy turning (second.renamed rename) =
      (first.followedBy turning second).renamed rename := by
  obtain ⟨outcome, depths⟩ := first
  cases outcome with
  | error cause => rfl
  | ok answer => by_cases same : answer = turning <;> simp [followedBy, renamed, Except.mapError, same]

/-- Trying a goal under other identities comes to the same, if questions do. -/
theorem Goal.tried_renamed {rename : TypeId → TypeId} {ask later : Question → Run}
    (each : ∀ question, later (question.renamed rename) = (ask question).renamed rename)
    (goal : Goal) : (goal.renamed rename).tried later = (goal.tried ask).renamed rename := by
  induction goal with
  | decided answer => rfl
  | stuck cause => rfl
  | compare question => exact each question
  | both first second ihFirst ihSecond =>
      rw [renamed, tried, tried, ihFirst, ihSecond, Run.followedBy_renamed]
  | either first second ihFirst ihSecond =>
      rw [renamed, tried, tried, ihFirst, ihSecond, Run.followedBy_renamed]

namespace Graph

/-- Whether a graph becomes another when its identities are replaced one to one. -/
structure RenamesTo (rename : TypeId → TypeId) (graph other : Graph) : Prop where
  injective : Function.Injective rename
  size_eq : other.size = graph.size
  node : ∀ id, other.node (rename id) = (graph.node id).map (Node.renamed rename)
  classId : ∀ name, other.classId name = (graph.classId name).map rename
  primitive : ∀ kind, other.primitive kind = rename (graph.primitive kind)

/-- What a search for an overridden method goes through: the candidates of each supertype. -/
def candidatesAbove (graph : Graph) (decl : MethodDecl) : List (TypeId × Goal) :=
  (LazyList.join (graph.candidates decl.name decl.parameterTypes)
    (graph.supertypes decl.declaringType)).toList

variable {rename : TypeId → TypeId} {graph other : Graph}

/-- A walk along renamed references visits what it visits along the references, renamed. -/
theorem walkFrom_renamed {branches later : TypeId → Option (List TypeId)}
    (injective : Function.Injective rename)
    (branch : ∀ id, later (rename id) = (branches id).map (List.map rename)) (fuel : Nat)
    {entered laterEntered : Entered} (same : ∀ id, rename id ∈ laterEntered ↔ id ∈ entered)
    (pending : List TypeId) :
    walkFrom later fuel laterEntered (pending.map rename) =
      (walkFrom branches fuel entered pending).map rename := by
  induction fuel, entered, pending using walk_induction branches generalizing laterEntered with
  | exhausted entered pending => rfl
  | done fuel entered => rfl
  | leaf fuel entered id pending leaf ih =>
      have leaf_later : later (rename id) = none := by rw [branch, leaf, Option.map_none]
      rw [List.map_cons, walkFrom_of_leaf leaf_later, walkFrom_of_leaf leaf, ih same, LazyList.map]
  | again fuel entered id pending references branching known ih =>
      have branching_later : later (rename id) = some (references.map rename) := by
        rw [branch, branching, Option.map_some]
      rw [List.map_cons, walkFrom_of_entered branching_later ((same id).mpr known),
        walkFrom_of_entered branching known, ih same]
  | fresh fuel entered id pending references branching fresh ih =>
      have branching_later : later (rename id) = some (references.map rename) := by
        rw [branch, branching, Option.map_some]
      have same_next (next : TypeId) :
          rename next ∈ laterEntered.insert (rename id) ↔ next ∈ entered.insert id := by
        rw [mem_insert_entered, mem_insert_entered, injective.eq_iff, same]
      rw [List.map_cons, walkFrom_of_fresh branching_later (mt (same id).mp fresh),
        walkFrom_of_fresh branching fresh, ← List.map_append, ih same_next, LazyList.map]

namespace RenamesTo

variable (renames : graph.RenamesTo rename other)

include renames

theorem classDecl? (id : TypeId) :
    other.classDecl? (rename id) = (graph.classDecl? id).map (·.renamed rename) := by
  rw [Graph.classDecl?, Graph.classDecl?, renames.node]
  cases graph.node id with
  | none => rfl
  | some node => cases node <;> rfl

theorem classBehind (id : TypeId) :
    other.classBehind (rename id) = (graph.classBehind id).map (·.renamed rename) := by
  rw [Graph.classBehind, Graph.classBehind, renames.node]
  cases graph.node id with
  | none => rfl
  | some node =>
      cases node with
      | parameterized base arguments => exact renames.classDecl? base
      | annotationUse type values => exact renames.classDecl? type
      | _ => rfl

theorem qualifiedName (id : TypeId) :
    other.qualifiedName (rename id) = graph.qualifiedName id := by
  rw [Graph.qualifiedName, Graph.qualifiedName, renames.classBehind, Option.map_map]
  rfl

theorem boxed (kind : Primitive) : other.boxed kind = (graph.boxed kind).map rename := by
  rw [Graph.boxed, Graph.boxed]
  cases kind.boxedName? with
  | none => rfl
  | some name => exact renames.classId name

theorem superclass (decl : ClassDecl) :
    other.superclass (decl.renamed rename) = (graph.superclass decl).map rename := by
  have root : other.object = graph.object.map rename := renames.classId _
  rw [Graph.superclass.eq_def, Graph.superclass.eq_def]
  simp only [ClassDecl.renamed, root]
  cases decl.supertype with
  | some super => rfl
  | none =>
      cases decl.kind with
      | interface | annotationType => rfl
      | _ => exact (apply_ite (Option.map rename) _ none graph.object).symm

theorem supertypes (id : TypeId) :
    other.supertypes (rename id) = (graph.supertypes id).map rename := by
  simp only [Graph.supertypes, supertype, interfaces, renames.classBehind]
  cases graph.classBehind id with
  | none => rfl
  | some decl =>
      simp only [Option.map_some, Option.bind_some, Option.getD_some, renames.superclass,
        List.map_append, Option.toList_map]
      rfl

theorem ancestors (id : TypeId) :
    other.ancestors (rename id) = (graph.ancestors id).map (List.map rename) := by
  rw [Graph.ancestors, Graph.ancestors, renames.node]
  cases graph.node id with
  | none => rfl
  | some node =>
      cases node with
      | classDecl | parameterized | annotationUse => exact congrArg some (renames.supertypes id)
      | _ => rfl

theorem declaredSupertypes (id : TypeId) :
    other.declaredSupertypes (rename id) =
      (graph.declaredSupertypes id).map (List.map rename) := by
  simp only [Graph.declaredSupertypes, renames.node, renames.supertypes, Option.map_map,
    Function.comp_def]

theorem walk {branches later : TypeId → Option (List TypeId)}
    (branch : ∀ id, later (rename id) = (branches id).map (List.map rename)) (start : TypeId) :
    other.walk later (rename start) = (graph.walk branches start).map rename := by
  rw [Graph.walk, Graph.walk, renames.size_eq]
  exact walkFrom_renamed renames.injective branch _ (by simp) [start]

theorem methods (id : TypeId) : other.methods (rename id) = (graph.methods id).map rename := by
  rw [Graph.methods, Graph.methods, renames.classBehind]
  cases graph.classBehind id <;> rfl

theorem typeParameters (id : TypeId) :
    other.typeParameters (rename id) = (graph.typeParameters id).map rename := by
  have declared : (((graph.classBehind id).map (·.renamed rename)).map
      (·.typeParameters)).getD [] =
      (((graph.classBehind id).map (·.typeParameters)).getD []).map rename := by
    cases graph.classBehind id <;> rfl
  rw [Graph.typeParameters, Graph.typeParameters, renames.node, renames.classBehind]
  cases graph.node id with
  | none => exact declared
  | some node => cases node <;> first | rfl | exact declared

theorem outermost (steps : Nat) (decl : ClassDecl) :
    other.outermost steps (decl.renamed rename) = (graph.outermost steps decl).renamed rename := by
  induction steps generalizing decl with
  | zero => rfl
  | succ steps ih =>
      have outer : (decl.renamed rename).owner.bind other.classBehind =
          (decl.owner.bind graph.classBehind).map (·.renamed rename) := by
        cases owner : decl.owner <;> simp [ClassDecl.renamed, owner, renames.classBehind]
      rw [Graph.outermost, Graph.outermost, outer]
      cases decl.owner.bind graph.classBehind with
      | none => rfl
      | some next => exact ih next

theorem ownerPackage (id : TypeId) :
    other.ownerPackage (rename id) = graph.ownerPackage id := by
  rw [Graph.ownerPackage, Graph.ownerPackage, renames.classBehind, Option.map_map]
  simp only [Function.comp_def, renames.outermost]
  rfl

theorem withNode {next later : Node → Goal} (id : TypeId)
    (each : ∀ node, (next node).renamed rename = later (node.renamed rename)) :
    (graph.withNode id next).renamed rename = other.withNode (rename id) later := by
  rw [Graph.withNode, Graph.withNode, renames.node]
  cases graph.node id with
  | none => rfl
  | some node => exact each node

theorem withName {next later : String → Goal} (id : TypeId)
    (each : ∀ name ∈ graph.qualifiedName id, (next name).renamed rename = later name) :
    (graph.withName id next).renamed rename = other.withName (rename id) later := by
  rw [Graph.withName, Graph.withName, renames.qualifiedName]
  cases named : graph.qualifiedName id with
  | none => rfl
  | some name => exact each name named

variable {question : Question} {targetNode sourceNode : Node} {mode : Mode}

theorem sameNominal (question : Question) (targetNode sourceNode : Node) :
    (graph.sameNominal question targetNode sourceNode).renamed rename =
      other.sameNominal (question.renamed rename) (targetNode.renamed rename)
        (sourceNode.renamed rename) := by
  have valued := Node.sameValue_renamed renames.injective targetNode sourceNode
  refine renames.withName question.target fun targetName _ => ?_
  refine renames.withName question.source fun sourceName _ => ?_
  split
  · cases targetNode with
    | parameterized base targets =>
        cases sourceNode with
        | parameterized sourceBase sources => exact Goal.renamed_sameTypes _ targets sources
        | _ => exact congrArg Goal.decided valued.symm
    | annotationUse type targets =>
        cases sourceNode with
        | annotationUse sourceType sources =>
            exact Goal.renamed_sameUse type sourceType targets sources
        | _ => exact congrArg Goal.decided valued.symm
    | _ => cases sourceNode <;> first | rfl | exact congrArg Goal.decided valued.symm
  · exact congrArg Goal.decided valued.symm

theorem equalityGoal (question : Question) (targetNode sourceNode : Node) :
    (graph.equalityGoal question targetNode sourceNode).renamed rename =
      other.equalityGoal (question.renamed rename) (targetNode.renamed rename)
        (sourceNode.renamed rename) := by
  have otherwise : Goal.renamed rename (if targetNode.isNominal && sourceNode.isNominal then
        graph.sameNominal question targetNode sourceNode
      else .decided (targetNode.sameValue sourceNode)) =
      if (targetNode.renamed rename).isNominal && (sourceNode.renamed rename).isNominal then
        other.sameNominal (question.renamed rename) (targetNode.renamed rename)
          (sourceNode.renamed rename)
      else .decided ((targetNode.renamed rename).sameValue (sourceNode.renamed rename)) := by
    rw [Node.isNominal_renamed, Node.isNominal_renamed, ← renames.sameNominal,
      Node.sameValue_renamed renames.injective]
    exact apply_ite (Goal.renamed rename) _ _ _
  cases targetNode <;> cases sourceNode
  case primitive.primitive => rfl
  case array.array => rfl
  case typeVariable.typeVariable => exact Goal.renamed_sameVariable _ _ _
  case methodDecl.methodDecl => exact Goal.renamed_sameMethod _ _ _
  case variableDecl.variableDecl target source =>
    exact congrArg (Goal.both _) (Goal.renamed_sameOptional _ target.owner source.owner)
  all_goals exact otherwise

theorem withinWildcard (mode : Mode) (wildcard : TypeVariable) (bound argument : TypeId) :
    (graph.withinWildcard mode wildcard bound argument).renamed rename =
      other.withinWildcard mode (wildcard.renamed rename) (rename bound) (rename argument) := by
  refine renames.withNode argument fun argumentNode => ?_
  have offered : (wildcard.renamed rename).offered? (rename argument)
      (argumentNode.renamed rename) = (wildcard.offered? argument argumentNode).map rename := by
    cases argumentNode with
    | typeVariable decl =>
        by_cases wild : decl.isWildcard = true
        · have still_wild : (decl.renamed rename).isWildcard = true := wild
          simp only [TypeVariable.offered?, Node.renamed, if_pos wild, if_pos still_wild]
          simp only [TypeVariable.renamed, List.head?_map]
          exact (apply_ite (Option.map rename) _ decl.bounds.head? none).symm
        · have still_named : ¬ (decl.renamed rename).isWildcard = true := wild
          simp only [TypeVariable.offered?, Node.renamed, if_neg wild, if_neg still_named]
          rfl
    | _ => rfl
  rw [offered]
  cases wildcard.offered? argument argumentNode with
  | none => rfl
  | some type =>
      simp only [Option.map_some, TypeVariable.admits, TypeVariable.renamed]
      cases wildcard.variance <;> rfl

theorem argumentFits (mode : Mode) (target source : TypeId) :
    (graph.argumentFits mode target source).renamed rename =
      other.argumentFits mode (rename target) (rename source) := by
  refine renames.withNode target fun targetNode => ?_
  cases targetNode with
  | typeVariable decl =>
      by_cases wild : decl.isWildcard = true
      · have still_wild : (decl.renamed rename).isWildcard = true := wild
        simp only [Node.renamed, if_pos wild, if_pos still_wild]
        cases bounds : decl.bounds with
        | nil => simp only [TypeVariable.renamed, bounds, List.map_nil, Goal.renamed]
        | cons bound others =>
            have within := renames.withinWildcard mode decl bound source
            simpa only [TypeVariable.renamed, bounds, List.map_cons] using within
      · have still_named : ¬ (decl.renamed rename).isWildcard = true := wild
        simp only [Node.renamed, if_neg wild, if_neg still_named]
        rfl
  | _ => rfl

theorem acceptsAnything (argument : TypeId) :
    (graph.acceptsAnything argument).renamed rename = other.acceptsAnything (rename argument) := by
  refine renames.withNode argument fun node => ?_
  cases node with
  | typeVariable decl =>
      simp only [Node.renamed, TypeVariable.renamed, TypeVariable.isUnbounded,
        TypeVariable.isWildcard, List.isEmpty_map]
      rfl
  | _ => rfl

theorem assignableToParameterized (question : Question) (base : TypeId) (arguments : List TypeId)
    (sourceNode : Node) :
    (graph.assignableToParameterized question base arguments sourceNode).renamed rename =
      other.assignableToParameterized (question.renamed rename) (rename base)
        (arguments.map rename) (sourceNode.renamed rename) := by
  have unlike : (Goal.both (.all (arguments.map graph.acceptsAnything))
        (.assignable question.mode base question.source)).renamed rename =
      .both (.all ((arguments.map rename).map other.acceptsAnything))
        (.assignable question.mode (rename base) (rename question.source)) := by
    rw [Goal.renamed, Goal.renamed_all, List.map_map, List.map_map]
    simp only [Function.comp_def, renames.acceptsAnything]
    rfl
  cases sourceNode with
  | parameterized sourceBase sourceArguments =>
      simp only [Graph.assignableToParameterized, Node.renamed, List.length_map]
      split
      · exact congrArg (Goal.both _) (Goal.renamed_zipWith
          (renames.argumentFits question.mode) arguments sourceArguments)
      · rfl
  | _ => exact unlike

/-- The text of a type is not looked at for a name without the bracket that opens type arguments. -/
theorem bearsName {name : String} (plain : '<' ∉ name.toList) (id : TypeId) :
    (graph.bearsName name id).renamed rename = other.bearsName name (rename id) := by
  have called : (graph.withName id fun own => .decided (ClassName.same name own)).renamed rename =
      other.withName (rename id) fun own => .decided (ClassName.same name own) :=
    renames.withName id fun _ _ => rfl
  rw [Graph.bearsName, Graph.bearsName, Graph.withNode, Graph.withNode, renames.node]
  cases node_eq : graph.node id with
  | none => rfl
  | some node =>
      cases node with
      | primitive kind =>
          dsimp only [Option.map_some, Node.renamed]
          cases primitiveNamed? name with
          | none => rfl
          | some named =>
              dsimp only
              rw [renames.primitive]
              rfl
      | classDecl decl => exact called
      | annotationUse type values => exact called
      | parameterized base arguments =>
          have later_eq : other.node (rename id) =
              some (.parameterized (rename base) (arguments.map rename)) := by
            rw [renames.node, node_eq]
            rfl
          simp only [Option.map_some, Node.renamed, isWritten_eq_false node_eq plain,
            isWritten_eq_false later_eq plain]
          exact called
      | _ => rfl

theorem fitsName {name : String} (plain : '<' ∉ name.toList) (source : TypeId) :
    (graph.fitsName name source).renamed rename = other.fitsName name (rename source) := by
  rw [Graph.fitsName, Graph.fitsName, Goal.renamed_any, LazyList.map_map,
    renames.walk renames.ancestors, LazyList.map_map]
  exact congrArg (fun goal => Goal.any ((graph.walk graph.ancestors source).map goal))
    (funext (renames.bearsName plain))

theorem assignableToClass (plain : graph.NamesPlainly) (question : Question) (sourceNode : Node) :
    (graph.assignableToClass question sourceNode).renamed rename =
      other.assignableToClass (question.renamed rename) (sourceNode.renamed rename) := by
  have named : (graph.withName question.target fun name =>
        graph.fitsName name question.source).renamed rename =
      other.withName (rename question.target) fun name =>
        other.fitsName name (rename question.source) := by
    refine renames.withName question.target fun name named => renames.fitsName ?_ question.source
    obtain ⟨decl, behind, rfl⟩ := Option.map_eq_some_iff.mp named
    rw [classBehind_eq_bind] at behind
    obtain ⟨declared, -, found⟩ := Option.bind_eq_some_iff.mp behind
    exact plain declared decl found
  cases sourceNode with
  | primitive kind =>
      simp only [Graph.assignableToClass, Node.renamed, renames.boxed]
      cases graph.boxed kind <;> rfl
  | intersection bounds =>
      simp only [Graph.assignableToClass, Node.renamed]
      rw [Goal.renamed_any, LazyList.map_map, LazyList.map_ofList, LazyList.map_ofList,
        List.map_map]
      rfl
  | typeVariable decl => rfl
  | _ => exact named

theorem assignableToArray (question : Question) (element : TypeId) (sourceNode : Node) :
    (graph.assignableToArray question element sourceNode).renamed rename =
      other.assignableToArray (question.renamed rename) (rename element)
        (sourceNode.renamed rename) := by
  cases sourceNode with
  | array sourceElement =>
      refine renames.withNode element fun elementNode => ?_
      cases elementNode <;> rfl
  | _ => rfl

theorem assignableToPrimitive (question : Question) (kind : Primitive) (sourceNode : Node) :
    (graph.assignableToPrimitive question kind sourceNode).renamed rename =
      other.assignableToPrimitive (question.renamed rename) kind (sourceNode.renamed rename) := by
  have unboxed : (graph.withName question.source fun name =>
        .decided ((Primitive.ofClassName? name).any kind.widens)).renamed rename =
      other.withName (rename question.source) fun name =>
        .decided ((Primitive.ofClassName? name).any kind.widens) :=
    renames.withName question.source fun _ _ => rfl
  cases sourceNode with
  | classDecl | parameterized | annotationUse => exact unboxed
  | _ => rfl

theorem assignabilityGoal (plain : graph.NamesPlainly) (question : Question)
    (targetNode sourceNode : Node) :
    (graph.assignabilityGoal question targetNode sourceNode).renamed rename =
      other.assignabilityGoal (question.renamed rename) (targetNode.renamed rename)
        (sourceNode.renamed rename) := by
  cases targetNode with
  | parameterized base arguments =>
      exact renames.assignableToParameterized question base arguments sourceNode
  | classDecl | annotationUse => exact renames.assignableToClass plain question sourceNode
  | array element => exact renames.assignableToArray question element sourceNode
  | primitive kind => exact renames.assignableToPrimitive question kind sourceNode
  | _ => rfl

theorem atOnce? (question : Question) (targetNode sourceNode : Node) :
    Graph.atOnce? (question.renamed rename) (targetNode.renamed rename)
        (sourceNode.renamed rename) = Graph.atOnce? question targetNode sourceNode := by
  have infers : question.mode.infers (targetNode.renamed rename) (sourceNode.renamed rename) =
      question.mode.infers targetNode sourceNode := by
    cases mode : question.mode <;> simp [Mode.infers]
  rw [Graph.atOnce?, Graph.atOnce?]
  cases relation : question.relation with
  | ofType =>
      simp only [Question.renamed, relation, Question.equalAtOnce?, Node.renamed_eq_unknown_iff,
        renames.injective.eq_iff, infers, Node.isString_renamed]
  | assignableTo =>
      simp only [Question.renamed, relation, Question.assignableAtOnce?,
        Node.renamed_eq_unknown_iff, Node.isWildcard_renamed, Node.renamed_eq_primitive_iff,
        renames.injective.eq_iff, infers]
      cases targetNode <;> rfl

theorem step (plain : graph.NamesPlainly) (question : Question) :
    other.step (question.renamed rename) = (graph.step question).renamed rename := by
  simp only [Graph.step, Question.renamed, renames.node]
  cases graph.node question.target with
  | none => rfl
  | some targetNode =>
      cases graph.node question.source with
      | none => rfl
      | some sourceNode =>
          have settled := renames.atOnce? question targetNode sourceNode
          rw [Question.renamed] at settled
          simp only [Option.map_some, settled]
          cases Graph.atOnce? question targetNode sourceNode with
          | some answer => rfl
          | none =>
              refine congrArg Step.reduced ?_
              simp only [goal]
              cases question.relation with
              | ofType => exact (renames.equalityGoal question targetNode sourceNode).symm
              | assignableTo =>
                  exact (renames.assignabilityGoal plain question targetNode sourceNode).symm

/-- The run of a question under other identities is the same under these. -/
theorem run (plain : graph.NamesPlainly) (opened : List Question) (question : Question) :
    other.run (opened.map (Question.renamed rename)) (question.renamed rename) =
      (graph.run opened question).renamed rename := by
  have distinct := Question.renamed_injective renames.injective
  induction opened, question using graph.run_induction with
  | settled opened question outcome settled =>
      have later := renames.step plain question
      rw [settled] at later
      rw [run_of_settled settled, run_of_settled later, Run.renamed]
  | known opened question goal reduced known =>
      have later := renames.step plain question
      rw [reduced] at later
      rw [run_of_open reduced known, run_of_open later (List.mem_map_of_mem known),
        List.length_map, Run.renamed]
      rfl
  | fresh opened question goal reduced fresh ih =>
      have later := renames.step plain question
      rw [reduced] at later
      have fresh_later : question.renamed rename ∉ opened.map (Question.renamed rename) :=
        mt (List.mem_map_of_injective distinct).mp fresh
      rw [run_of_fresh reduced fresh, run_of_fresh later fresh_later, List.length_map,
        ← List.map_cons, Goal.tried_renamed ih]
      rfl

theorem substituted? (declared supplied : List TypeId) (parameter : TypeId) :
    Graph.substituted? (declared.map rename) (supplied.map rename) (rename parameter) =
      (Graph.substituted? declared supplied parameter).map rename := by
  rw [Graph.substituted?, Graph.substituted?, List.zip_map, ← List.map_reverse]
  induction (declared.zip supplied).reverse with
  | nil => rfl
  | cons entry entries ih =>
      rw [List.map_cons, List.lookup_cons, List.lookup_cons, Prod.map_fst, Prod.map_snd, ih,
        renames.injective.beq_eq]
      cases parameter == entry.1 <;> rfl

theorem takes (declared supplied : List TypeId) (parameter argument : TypeId) :
    (Graph.takes declared supplied parameter argument).renamed rename =
      Graph.takes (declared.map rename) (supplied.map rename) (rename parameter)
        (rename argument) := by
  have options := Option.map_injective renames.injective
  have stands : (Graph.substituted? (declared.map rename) (supplied.map rename)
        (rename parameter) = some (rename argument)) =
      (Graph.substituted? declared supplied parameter = some argument) := by
    rw [renames.substituted?, ← Option.map_some, options.eq_iff]
  simp only [Graph.takes, stands]
  rfl

theorem hasSignature (through : TypeId) (name : String) (arguments : List TypeId)
    (method : TypeId) :
    (graph.hasSignature through name arguments method).renamed rename =
      other.hasSignature (rename through) name (arguments.map rename) (rename method) := by
  refine renames.withNode method fun node => ?_
  cases node with
  | methodDecl decl =>
      simp only [Node.renamed, MethodDecl.renamed, List.length_map, renames.typeParameters]
      split
      · split
        · exact Goal.renamed_zipWith (renames.takes _ _) decl.parameterTypes arguments
        · rfl
      · rfl
  | _ => rfl

/-- What a search through candidates goes through, under other identities. -/
theorem candidates (name : String) (arguments : List TypeId) (type : TypeId) :
    (other.candidates name (arguments.map rename) (rename type)).toList =
      (graph.candidates name arguments type).toList.map
        (Prod.map rename (Goal.renamed rename)) := by
  have at_type (through : TypeId) :
      other.candidatesAt name (arguments.map rename) (rename through) =
        (graph.candidatesAt name arguments through).map
          (Prod.map rename (Goal.renamed rename)) := by
    rw [candidatesAt, candidatesAt, renames.node, renames.methods]
    cases graph.node through with
    | none => rfl
    | some node =>
        simp only [Option.map_some, List.map_map, Function.comp_def, Prod.map_apply,
          renames.hasSignature]
  rw [Graph.candidates, Graph.candidates, renames.walk renames.declaredSupertypes]
  simp only [LazyList.toList_flatMap, LazyList.toList_map, List.flatMap_map, at_type,
    List.map_flatMap]

theorem candidatesAbove (decl : MethodDecl) :
    other.candidatesAbove (decl.renamed rename) =
      (graph.candidatesAbove decl).map (Prod.map rename (Goal.renamed rename)) := by
  simp only [Graph.candidatesAbove, MethodDecl.renamed, LazyList.toList_join, renames.supertypes,
    List.flatMap_map, renames.candidates, List.map_flatMap]

end RenamesTo
end Graph
end JavaTypes
