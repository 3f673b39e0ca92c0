import JavaTypes.Proofs.Causes
import JavaTypes.Proofs.Growth
import JavaTypes.Proofs.Naming

/-!
# Answers outlast further construction

A question that is answered in a store keeps its answer, and the whole run of its questions, when
the store is built further.  Whatever the run comes across that is not there yet makes it end
without an answer, so that an answer rests on nothing that may still change.
-/

namespace JavaTypes

/-- Whether another run is the same as one that has an answer. -/
def Run.Persists (run later : Run) : Prop := ∀ answer, run.outcome = .ok answer → later = run

theorem Run.Persists.followedBy {first second laterFirst laterSecond : Run} {turning : Bool}
    (first_persists : first.Persists laterFirst) (second_persists : second.Persists laterSecond) :
    (first.followedBy turning second).Persists (laterFirst.followedBy turning laterSecond) := by
  intro answer answered
  rcases outcome_followedBy_eq_ok.mp answered with ⟨turned, second_answered⟩ | ⟨ended, ne⟩
  · rw [first_persists turning turned, second_persists answer second_answered]
  · rw [first_persists answer ended]
    simp only [Run.followedBy, ended, if_neg ne]

namespace Goal

/-- Whether trying a goal that gets an answer is the same run as trying another goal later. -/
def Persists (ask later : Question → Run) (goal larger : Goal) : Prop :=
  (goal.tried ask).Persists (larger.tried later)

variable {ask later : Question → Run} {first laterFirst : Goal}

theorem persists_decided (answer : Bool) : Persists ask later (decided answer) (decided answer) :=
  fun _ _ => rfl

theorem persists_stuck (cause : Indeterminate) (larger : Goal) :
    Persists ask later (stuck cause) larger := by
  intro answer answered
  cases answered

theorem persists_both {second laterSecond : Goal}
    (first_persists : Persists ask later first laterFirst)
    (second_persists : Persists ask later second laterSecond) :
    Persists ask later (both first second) (both laterFirst laterSecond) :=
  Run.Persists.followedBy first_persists second_persists

theorem persists_either {second laterSecond : Unit → Goal}
    (first_persists : Persists ask later first laterFirst)
    (second_persists : Persists ask later (second ()) (laterSecond ())) :
    Persists ask later (either first second) (either laterFirst laterSecond) :=
  Run.Persists.followedBy first_persists second_persists

/-- A search that gets stuck at once has no answer. -/
theorem persists_either_stuck (cause : Indeterminate) (second : Unit → Goal) (larger : Goal) :
    Persists ask later (either (stuck cause) second) larger := by
  intro answer answered
  cases answered

theorem persists_self {asks : Question → Prop} {goal : Goal}
    (mentions : goal.Mentions asks fun _ => True)
    (persists : ∀ question, asks question → (ask question).Persists (later question)) :
    Persists ask later goal goal := by
  induction goal with
  | decided answer => exact persists_decided answer
  | stuck cause => exact persists_stuck cause _
  | compare question => exact persists question mentions
  | both first second ihFirst ihSecond =>
      exact persists_both (ihFirst mentions.1) (ihSecond mentions.2)
  | either first second ihFirst ihSecond =>
      exact persists_either (ihFirst mentions.1) (ihSecond () mentions.2)

/-- Nothing is asked of a goal by any question and any cause. -/
theorem mentions_trivially (goal : Goal) : goal.Mentions (fun _ => True) fun _ => True := by
  induction goal with
  | both first second ihFirst ihSecond => exact ⟨ihFirst, ihSecond⟩
  | either first second ihFirst ihSecond => exact ⟨ihFirst, ihSecond ()⟩
  | _ => trivial

theorem persists_same (persists : ∀ question, (ask question).Persists (later question))
    (goal : Goal) : Persists ask later goal goal :=
  persists_self goal.mentions_trivially fun question _ => persists question

theorem persists_all_map {α : Type} {goal larger : α → Goal} {items : List α}
    (each : ∀ item, Persists ask later (goal item) (larger item)) :
    Persists ask later (all (items.map goal)) (all (items.map larger)) := by
  induction items with
  | nil => exact persists_decided true
  | cons item items ih => exact persists_both (each item) ih

theorem persists_all_zipWith {α β : Type} {goal larger : α → β → Goal} {targets : List α}
    {sources : List β}
    (each : ∀ target source, Persists ask later (goal target source) (larger target source)) :
    Persists ask later (all (List.zipWith goal targets sources))
      (all (List.zipWith larger targets sources)) := by
  rw [← List.map_uncurry_zip_eq_zipWith, ← List.map_uncurry_zip_eq_zipWith]
  exact persists_all_map fun pair => each pair.1 pair.2

end Goal

namespace Graph

/-- Two walks from the same place whose visits are asked about in turn go the same way, as far as
neither gets stuck. -/
theorem persists_any_walkFrom {ask later : Question → Run}
    {branches laterBranches : TypeId → Option (List TypeId)} {goal laterGoal : TypeId → Goal}
    {size laterSize : Nat}
    (inside : ∀ id references, branches id = some references → id.raw < size)
    (laterInside : ∀ id references, laterBranches id = some references → id.raw < laterSize)
    (branch : ∀ id, branches id ≠ none → laterBranches id ≠ none)
    (each : ∀ id, (∃ cause, goal id = .stuck cause) ∨
      laterBranches id = branches id ∧ Goal.Persists ask later (goal id) (laterGoal id))
    {fuel laterFuel : Nat} {entered : Entered} {pending : List TypeId}
    (room : unentered size entered < fuel) (laterRoom : unentered laterSize entered < laterFuel) :
    Goal.Persists ask later (.any ((walkFrom branches fuel entered pending).map goal))
      (.any ((walkFrom laterBranches laterFuel entered pending).map laterGoal)) := by
  obtain ⟨laterFuel, rfl⟩ := Nat.exists_eq_succ_of_ne_zero (Nat.ne_zero_of_lt laterRoom)
  induction fuel, entered, pending using walk_induction branches generalizing laterFuel with
  | exhausted entered pending => exact absurd room (Nat.not_lt_zero _)
  | done fuel entered =>
      rw [walkFrom_nil, walkFrom_nil]
      exact Goal.persists_decided false
  | leaf fuel entered id pending leaf ih =>
      rw [walkFrom_of_leaf leaf, LazyList.map, Goal.any]
      rcases each id with ⟨cause, stuck⟩ | ⟨branches_eq, persists⟩
      · rw [stuck]
        exact Goal.persists_either_stuck cause _ _
      · rw [walkFrom_of_leaf (branches_eq.trans leaf), LazyList.map, Goal.any]
        exact Goal.persists_either persists (ih room laterFuel laterRoom)
  | again fuel entered id pending references branching known ih =>
      have branching_later : laterBranches id ≠ none := branch id (by simp [branching])
      obtain ⟨laterReferences, branching_later⟩ := Option.ne_none_iff_exists'.mp branching_later
      rw [walkFrom_of_entered branching known, walkFrom_of_entered branching_later known]
      exact ih room laterFuel laterRoom
  | fresh fuel entered id pending references branching fresh ih =>
      rw [walkFrom_of_fresh branching fresh, LazyList.map, Goal.any]
      rcases each id with ⟨cause, stuck⟩ | ⟨branches_eq, persists⟩
      · rw [stuck]
        exact Goal.persists_either_stuck cause _ _
      · have branching_later := branches_eq.trans branching
        rw [walkFrom_of_fresh branching_later fresh, LazyList.map, Goal.any]
        have room_next : unentered size (entered.insert id) < fuel :=
          (unentered_insert_lt (inside id references branching) fresh).trans_le
            (Nat.le_of_lt_succ room)
        have laterRoom_next : unentered laterSize (entered.insert id) < laterFuel :=
          (unentered_insert_lt (laterInside id references branching_later) fresh).trans_le
            (Nat.le_of_lt_succ laterRoom)
        obtain ⟨less, rfl⟩ := Nat.exists_eq_succ_of_ne_zero (Nat.ne_zero_of_lt laterRoom_next)
        exact Goal.persists_either persists (ih room_next less laterRoom_next)

theorem persists_any_walk {graph larger : Graph} {ask later : Question → Run}
    {branches laterBranches : TypeId → Option (List TypeId)} {goal laterGoal : TypeId → Goal}
    (inside : ∀ id references, branches id = some references → id.raw < graph.size)
    (laterInside : ∀ id references, laterBranches id = some references → id.raw < larger.size)
    (branch : ∀ id, branches id ≠ none → laterBranches id ≠ none)
    (each : ∀ id, (∃ cause, goal id = .stuck cause) ∨
      laterBranches id = branches id ∧ Goal.Persists ask later (goal id) (laterGoal id))
    (start : TypeId) :
    Goal.Persists ask later (.any ((graph.walk branches start).map goal))
      (.any ((larger.walk laterBranches start).map laterGoal)) :=
  persists_any_walkFrom inside laterInside branch each
    (Nat.lt_succ_of_le (unentered_le graph.size ∅)) (Nat.lt_succ_of_le (unentered_le larger.size ∅))

/-- Whether every node of a graph is in another one, where a class may list more methods. -/
structure GrowsTo (graph larger : Graph) : Prop where
  node : ∀ id node, graph.node id = some node →
    ∃ more, larger.node id = some (node.listing more)
  primitive : ∀ kind, larger.primitive kind = graph.primitive kind

/-- Whether the root of the hierarchy and the classes that primitives box to are the same for two
graphs, the first of which names its classes plainly. -/
structure KnowsAlike (graph larger : Graph) : Prop where
  object : larger.object = graph.object
  boxed : ∀ kind, larger.boxed kind = graph.boxed kind
  plain : graph.NamesPlainly

variable {graph larger : Graph} {id : TypeId} {decl : ClassDecl} {name : String}

namespace GrowsTo

variable (grows : graph.GrowsTo larger)

include grows

theorem classDecl? (found : graph.classDecl? id = some decl) :
    ∃ more, larger.classDecl? id = some { decl with methods := decl.methods ++ more } := by
  obtain ⟨more, node_eq⟩ := grows.node id _ (node_eq_of_classDecl? found)
  exact ⟨more, classDecl?_eq_some node_eq⟩

theorem classBehind (behind : graph.classBehind id = some decl) :
    ∃ more, larger.classBehind id = some { decl with methods := decl.methods ++ more } := by
  rw [Graph.classBehind] at behind
  split at behind
  · next own node_eq =>
      obtain rfl := Option.some.inj behind
      obtain ⟨more, later_eq⟩ := grows.node id _ node_eq
      exact ⟨more, by rw [Graph.classBehind, later_eq]; rfl⟩
  · next base arguments node_eq =>
      obtain ⟨_, later_eq⟩ := grows.node id _ node_eq
      obtain ⟨more, found⟩ := grows.classDecl? behind
      exact ⟨more, by rw [Graph.classBehind, later_eq]; exact found⟩
  · next type values node_eq =>
      obtain ⟨_, later_eq⟩ := grows.node id _ node_eq
      obtain ⟨more, found⟩ := grows.classDecl? behind
      exact ⟨more, by rw [Graph.classBehind, later_eq]; exact found⟩
  · cases behind

theorem qualifiedName (named : graph.qualifiedName id = some name) :
    larger.qualifiedName id = some name := by
  obtain ⟨decl, behind, rfl⟩ := Option.map_eq_some_iff.mp named
  obtain ⟨more, behind_later⟩ := grows.classBehind behind
  rw [Graph.qualifiedName, behind_later, Option.map_some]

theorem supertypes (object_eq : larger.object = graph.object)
    (behind : graph.classBehind id = some decl) :
    larger.supertypes id = graph.supertypes id := by
  obtain ⟨more, behind_later⟩ := grows.classBehind behind
  simp only [Graph.supertypes, supertype, interfaces, superclass, behind, behind_later, object_eq,
    Option.bind_some, Option.map_some]

end GrowsTo

variable {ask later : Question → Run}

theorem persists_withNode (grows : graph.GrowsTo larger) {next laterNext : Node → Goal}
    (each : ∀ node more, graph.node id = some node →
      Goal.Persists ask later (next node) (laterNext (node.listing more))) :
    Goal.Persists ask later (graph.withNode id next) (larger.withNode id laterNext) := by
  rw [withNode, withNode]
  cases node_eq : graph.node id with
  | none => exact Goal.persists_stuck _ _
  | some node =>
      obtain ⟨more, later_eq⟩ := grows.node id node node_eq
      rw [later_eq]
      exact each node more node_eq

theorem persists_withName (grows : graph.GrowsTo larger) {next laterNext : String → Goal}
    (each : ∀ name, graph.qualifiedName id = some name →
      Goal.Persists ask later (next name) (laterNext name)) :
    Goal.Persists ask later (graph.withName id next) (larger.withName id laterNext) := by
  rw [withName, withName]
  cases named : graph.qualifiedName id with
  | none => exact Goal.persists_stuck _ _
  | some name =>
      rw [grows.qualifiedName named]
      exact each name named

section Equality

variable {question : Question} {targetNode sourceNode : Node} {more others : List TypeId}

theorem equalityGoal_of_nominal
    (nominal : (targetNode.isNominal && sourceNode.isNominal) = true) :
    graph.equalityGoal question targetNode sourceNode =
      graph.sameNominal question targetNode sourceNode := by
  cases targetNode <;> cases sourceNode <;> first | rfl | cases nominal

/-- Only the equality of nominal types looks at the graph, and at the methods of a class. -/
theorem equalityGoal_of_not_nominal
    (not_nominal : (targetNode.isNominal && sourceNode.isNominal) = false) :
    larger.equalityGoal question (targetNode.listing more) (sourceNode.listing others) =
      graph.equalityGoal question targetNode sourceNode := by
  cases targetNode <;> cases sourceNode <;> first | rfl | cases not_nominal

theorem mayAsk_ofType :
    Relation.ofType.MayAsk (fun other => other.relation = .ofType) fun _ => True :=
  fun _ _ _ _ _ => rfl

/-- Equality asks about equality only. -/
theorem mentions_equalityGoal
    (not_nominal : (targetNode.isNominal && sourceNode.isNominal) = false) :
    (graph.equalityGoal question targetNode sourceNode).Mentions
      (fun other => other.relation = .ofType) fun _ => True := by
  rw [equalityGoal.eq_def]
  split
  · trivial
  · rfl
  · exact Goal.mentions_sameVariable mayAsk_ofType (fun _ _ => trivial) fun _ _ => trivial
  · exact Goal.mentions_sameMethod mayAsk_ofType (fun _ _ => trivial) fun _ _ => trivial
  · exact Goal.mentions_sameDeclared mayAsk_ofType (fun _ _ => trivial) fun _ _ => trivial
  · rw [if_neg (by simp [not_nominal])]
    trivial

variable (grows : graph.GrowsTo larger)
  (asked : ∀ other : Question, other.relation = .ofType → (ask other).Persists (later other))

include grows asked

theorem persists_sameNominal
    (nominal : (targetNode.isNominal && sourceNode.isNominal) = true)
    (target_eq : graph.node question.target = some targetNode)
    (source_eq : graph.node question.source = some sourceNode) :
    Goal.Persists ask later (graph.sameNominal question targetNode sourceNode)
      (larger.sameNominal question (targetNode.listing more) (sourceNode.listing others)) := by
  have valued (apart : ∀ first second, targetNode = .classDecl first →
      sourceNode = .classDecl second → first.name ≠ second.name) :
      Goal.Persists ask later (.decided (targetNode.sameValue sourceNode))
        (.decided ((targetNode.listing more).sameValue (sourceNode.listing others))) := by
    rw [Node.sameValue_listing apart]
    exact Goal.persists_decided _
  refine persists_withName grows fun targetName target_named => ?_
  refine persists_withName grows fun sourceName source_named => ?_
  by_cases same : ClassName.same targetName sourceName
  · rw [if_pos same, if_pos same]
    cases targetNode <;> cases sourceNode <;> cases nominal
    case classDecl.classDecl.refl => exact Goal.persists_decided true
    case parameterized.parameterized.refl =>
      exact Goal.persists_self (Goal.mentions_sameTypes mayAsk_ofType (fun _ _ => trivial)
        fun _ _ => trivial) asked
    case annotationUse.annotationUse.refl =>
      exact Goal.persists_self (Goal.mentions_sameUse mayAsk_ofType (fun _ _ => trivial)
        fun _ _ => trivial) asked
    all_goals exact valued (by rintro _ _ ⟨⟩ ⟨⟩)
  · rw [if_neg same, if_neg same]
    refine valued ?_
    rintro first second rfl rfl name_eq
    rw [qualifiedName_eq_some target_eq, Option.some_inj] at target_named
    rw [qualifiedName_eq_some source_eq, Option.some_inj] at source_named
    rw [← target_named, ← source_named, name_eq] at same
    exact same (ClassName.same_iff.mpr rfl)

theorem persists_equalityGoal (target_eq : graph.node question.target = some targetNode)
    (source_eq : graph.node question.source = some sourceNode) :
    Goal.Persists ask later (graph.equalityGoal question targetNode sourceNode)
      (larger.equalityGoal question (targetNode.listing more) (sourceNode.listing others)) := by
  cases nominal : targetNode.isNominal && sourceNode.isNominal with
  | true =>
      rw [equalityGoal_of_nominal nominal, equalityGoal_of_nominal (by simpa using nominal)]
      exact persists_sameNominal grows asked nominal target_eq source_eq
  | false =>
      rw [equalityGoal_of_not_nominal nominal]
      exact Goal.persists_self (mentions_equalityGoal nominal) asked

end Equality

section Assignability

variable {question : Question} {targetNode sourceNode : Node} {more others : List TypeId}
  {mode : Mode} (grows : graph.GrowsTo larger)

include grows

/-- A walk goes on from a type that is there, with its class, as it does later. -/
theorem ancestors_of_growsTo {node : Node} (node_eq : graph.node id = some node)
    (classed : node.isNominal = true → graph.classBehind id ≠ none)
    (object_eq : larger.object = graph.object) : larger.ancestors id = graph.ancestors id := by
  obtain ⟨more, later_eq⟩ := grows.node id node node_eq
  have supertypes_eq (nominal : node.isNominal = true) :
      larger.supertypes id = graph.supertypes id := by
    obtain ⟨decl, behind⟩ := Option.ne_none_iff_exists'.mp (classed nominal)
    exact grows.supertypes object_eq behind
  rw [ancestors, ancestors, later_eq, node_eq]
  cases node with
  | classDecl _ | parameterized _ _ | annotationUse _ _ => exact congrArg some (supertypes_eq rfl)
  | _ => rfl

theorem ancestors_ne_none_of_growsTo (branching : graph.ancestors id ≠ none) :
    larger.ancestors id ≠ none := by
  cases node_eq : graph.node id with
  | none => simp [ancestors, node_eq] at branching
  | some node =>
      obtain ⟨more, later_eq⟩ := grows.node id node node_eq
      rw [ancestors, node_eq] at branching
      rw [ancestors, later_eq]
      cases node <;> first | exact absurd rfl branching | exact Option.some_ne_none _

variable (alike : graph.KnowsAlike larger)
  (asked : ∀ other, (ask other).Persists (later other))

include asked

theorem persists_withinWildcard {wildcard : TypeVariable} {bound argument : TypeId} :
    Goal.Persists ask later (graph.withinWildcard mode wildcard bound argument)
      (larger.withinWildcard mode wildcard bound argument) := by
  refine persists_withNode grows fun node more _ => ?_
  have offered_eq : wildcard.offered? argument (node.listing more) =
      wildcard.offered? argument node := by cases node <;> rfl
  rw [offered_eq]
  exact Goal.persists_same asked _

theorem persists_argumentFits (target source : TypeId) :
    Goal.Persists ask later (graph.argumentFits mode target source)
      (larger.argumentFits mode target source) := by
  refine persists_withNode grows fun node more _ => ?_
  cases node with
  | typeVariable decl =>
      dsimp only [Node.listing]
      split
      · split
        · exact Goal.persists_decided true
        · exact persists_withinWildcard grows asked
      · exact asked _
  | _ => exact asked _

omit asked in
theorem persists_acceptsAnything (argument : TypeId) :
    Goal.Persists ask later (graph.acceptsAnything argument) (larger.acceptsAnything argument) := by
  refine persists_withNode grows fun node more _ => ?_
  cases node <;> exact Goal.persists_decided _

theorem persists_assignableToParameterized {base : TypeId} {arguments : List TypeId} :
    Goal.Persists ask later (graph.assignableToParameterized question base arguments sourceNode)
      (larger.assignableToParameterized question base arguments (sourceNode.listing others)) := by
  cases sourceNode with
  | parameterized sourceBase sourceArguments =>
      dsimp only [assignableToParameterized, Node.listing]
      split
      · exact Goal.persists_both (asked _)
          (Goal.persists_all_zipWith (persists_argumentFits grows asked))
      · exact Goal.persists_decided false
  | _ => exact Goal.persists_both (Goal.persists_all_map (persists_acceptsAnything grows)) (asked _)

theorem persists_bearsName (plain : '<' ∉ name.toList) (id : TypeId) :
    Goal.Persists ask later (graph.bearsName name id) (larger.bearsName name id) := by
  refine persists_withNode grows fun node more node_eq => ?_
  obtain ⟨_, later_eq⟩ := grows.node id node node_eq
  cases node with
  | primitive kind =>
      dsimp only [Node.listing]
      split
      · rw [grows.primitive]
        exact asked _
      · exact Goal.persists_decided false
  | classDecl _ | annotationUse _ _ =>
      exact persists_withName grows fun own _ => Goal.persists_decided _
  | parameterized base arguments =>
      dsimp only [Node.listing]
      rw [isWritten_eq_false node_eq plain, isWritten_eq_false later_eq plain]
      exact persists_withName grows fun own _ => Goal.persists_decided _
  | _ => exact Goal.persists_decided false

omit grows asked in
/-- A search for a name gets stuck at a type that is not there, or whose class is not. -/
theorem bearsName_stuck_or_classed (plain : '<' ∉ name.toList) (id : TypeId) :
    (∃ cause, graph.bearsName name id = .stuck cause) ∨
      ∃ node, graph.node id = some node ∧
        (node.isNominal = true → graph.classBehind id ≠ none) := by
  cases node_eq : graph.node id with
  | none => exact Or.inl ⟨.danglingType id, by rw [bearsName, withNode, node_eq]⟩
  | some node =>
      by_cases unclassed : node.isNominal = true ∧ graph.classBehind id = none
      · obtain ⟨nominal, no_class⟩ := unclassed
        have unnamed : graph.qualifiedName id = none := Option.map_eq_none_iff.mpr no_class
        refine Or.inl ⟨.notFullyQualified id, ?_⟩
        rw [bearsName, withNode, node_eq]
        cases node with
        | classDecl _ | annotationUse _ _ => simp only [withName, unnamed]
        | parameterized _ _ => simp [isWritten_eq_false node_eq plain, withName, unnamed]
        | _ => cases nominal
      · exact Or.inr ⟨node, rfl, fun nominal no_class => unclassed ⟨nominal, no_class⟩⟩

include alike

theorem persists_fitsName (plain : '<' ∉ name.toList) (source : TypeId) :
    Goal.Persists ask later (graph.fitsName name source) (larger.fitsName name source) := by
  refine persists_any_walk ancestors_inside ancestors_inside
    (fun id => ancestors_ne_none_of_growsTo grows) (fun id => ?_) source
  refine (bearsName_stuck_or_classed plain id).imp_right ?_
  rintro ⟨node, node_eq, classed⟩
  exact ⟨ancestors_of_growsTo grows node_eq classed alike.object,
    persists_bearsName grows asked plain id⟩

omit asked grows in
theorem KnowsAlike.plain_of_named (named : graph.qualifiedName id = some name) :
    '<' ∉ name.toList := by
  obtain ⟨decl, behind, rfl⟩ := Option.map_eq_some_iff.mp named
  rw [classBehind_eq_bind] at behind
  obtain ⟨cls, -, found⟩ := Option.bind_eq_some_iff.mp behind
  exact alike.plain cls decl found

theorem persists_assignableToClass :
    Goal.Persists ask later (graph.assignableToClass question sourceNode)
      (larger.assignableToClass question (sourceNode.listing others)) := by
  cases sourceNode with
  | primitive kind =>
      dsimp only [assignableToClass, Node.listing]
      rw [alike.boxed]
      exact Goal.persists_same asked _
  | intersection bounds => exact Goal.persists_same asked _
  | typeVariable decl => exact Goal.persists_decided false
  | _ =>
      exact persists_withName grows fun name named =>
        persists_fitsName grows alike asked (alike.plain_of_named named) _

omit alike in
theorem persists_assignableToArray {element : TypeId} :
    Goal.Persists ask later (graph.assignableToArray question element sourceNode)
      (larger.assignableToArray question element (sourceNode.listing others)) := by
  cases sourceNode with
  | array sourceElement =>
      refine persists_withNode grows fun node more _ => ?_
      cases node <;> exact asked _
  | _ => exact Goal.persists_decided false

omit alike asked in
theorem persists_assignableToPrimitive {kind : Primitive} :
    Goal.Persists ask later (graph.assignableToPrimitive question kind sourceNode)
      (larger.assignableToPrimitive question kind (sourceNode.listing others)) := by
  cases sourceNode with
  | classDecl _ | parameterized _ _ | annotationUse _ _ =>
      exact persists_withName grows fun name _ => Goal.persists_decided _
  | _ => exact Goal.persists_decided _

theorem persists_assignabilityGoal :
    Goal.Persists ask later (graph.assignabilityGoal question targetNode sourceNode)
      (larger.assignabilityGoal question (targetNode.listing more)
        (sourceNode.listing others)) := by
  cases targetNode with
  | parameterized base arguments => exact persists_assignableToParameterized grows asked
  | typeVariable decl => exact Goal.persists_decided _
  | classDecl _ | annotationUse _ _ => exact persists_assignableToClass grows alike asked
  | array element => exact persists_assignableToArray grows asked
  | primitive kind => exact persists_assignableToPrimitive grows
  | variableDecl _ | methodDecl _ => exact asked _
  | unknown | intersection _ | multiCatch _ => exact Goal.persists_decided false

end Assignability

section Runs

variable {question : Question} {targetNode sourceNode : Node} {more others : List TypeId}

/-- The shortcuts do not look at the methods of a class. -/
theorem atOnce?_listing :
    atOnce? question (targetNode.listing more) (sourceNode.listing others) =
      atOnce? question targetNode sourceNode := by
  have infers_eq : question.mode.infers (targetNode.listing more) (sourceNode.listing others) =
      question.mode.infers targetNode sourceNode := by
    cases mode_eq : question.mode <;> simp [Mode.infers]
  rw [atOnce?.eq_def, atOnce?.eq_def]
  split
  · simp [Question.equalAtOnce?, infers_eq]
  · simp only [Question.assignableAtOnce?, infers_eq, Node.listing_eq_unknown_iff,
      Node.isWildcard_listing, Node.listing_eq_primitive_iff]
    cases targetNode <;> rfl

variable (grows : graph.GrowsTo larger)

include grows

theorem step_of_settled {answer : Bool} (settled : graph.step question = .settled (.ok answer)) :
    larger.step question = .settled (.ok answer) := by
  rw [step] at settled
  split at settled
  · cases settled
  · cases settled
  · next targetNode sourceNode target_eq source_eq =>
      obtain ⟨more, target_later⟩ := grows.node _ _ target_eq
      obtain ⟨others, source_later⟩ := grows.node _ _ source_eq
      split at settled
      · next shortcut =>
          simp only [step, target_later, source_later, atOnce?_listing, shortcut]
          exact settled
      · cases settled

/-- A question that reduces to a goal does so later, and to the goal that its nodes then have. -/
theorem step_of_reduced {goal : Goal} (reduced : graph.step question = .reduced goal) :
    ∃ targetNode sourceNode more others, graph.node question.target = some targetNode ∧
      graph.node question.source = some sourceNode ∧
      graph.goal question targetNode sourceNode = goal ∧
      larger.step question =
        .reduced (larger.goal question (targetNode.listing more) (sourceNode.listing others)) := by
  obtain ⟨targetNode, sourceNode, target_eq, source_eq, open_eq, goal_eq⟩ :=
    step_eq_reduced_iff.mp reduced
  obtain ⟨more, target_later⟩ := grows.node _ _ target_eq
  obtain ⟨others, source_later⟩ := grows.node _ _ source_eq
  refine ⟨targetNode, sourceNode, more, others, target_eq, source_eq, goal_eq, ?_⟩
  exact step_eq_reduced_iff.mpr
    ⟨_, _, target_later, source_later, atOnce?_listing.trans open_eq, rfl⟩

/-- A run that has an answer is the same in every graph that has grown from its own. -/
theorem persists_run {opened : List Question}
    (alike : question.relation = .assignableTo → graph.KnowsAlike larger) :
    (graph.run opened question).Persists (larger.run opened question) := by
  induction opened, question using graph.run_induction with
  | settled opened question outcome settled =>
      intro answer answered
      rw [run_of_settled settled] at answered ⊢
      obtain rfl : outcome = .ok answer := answered
      exact run_of_settled (step_of_settled grows settled)
  | known opened question goal reduced known =>
      obtain ⟨_, _, _, _, -, -, -, later⟩ := step_of_reduced grows reduced
      intro answer answered
      rw [run_of_open reduced known, run_of_open later known]
  | fresh opened question goal reduced fresh ih =>
      obtain ⟨targetNode, sourceNode, more, others, target_eq, source_eq, rfl, later⟩ :=
        step_of_reduced grows reduced
      have goal_persists : Goal.Persists (graph.run (question :: opened))
          (larger.run (question :: opened)) (graph.goal question targetNode sourceNode)
          (larger.goal question (targetNode.listing more) (sourceNode.listing others)) := by
        rw [Graph.goal, Graph.goal]
        split
        · next same =>
            have asked (other : Question) (equality : other.relation = .ofType) :=
              ih other fun assigns => by simp [equality] at assigns
            exact persists_equalityGoal grows asked target_eq source_eq
        · next assigns =>
            have known := alike assigns
            exact persists_assignabilityGoal grows known fun other => ih other fun _ => known
      intro answer answered
      rw [run_of_fresh reduced fresh] at answered ⊢
      rw [run_of_fresh later fresh, goal_persists answer answered]

end Runs

end Graph

namespace Handle

/-- An answer to a question stays the same if the environment grows, limits being what they are. -/
theorem tryAnswer_of_growsTo {env larger : Environment} {limits : Limits} {question : Question}
    {answer : Bool} (grows : env.toGraph.GrowsTo larger.toGraph)
    (alike : question.relation = .assignableTo → env.toGraph.KnowsAlike larger.toGraph)
    (answered : tryAnswer { env, limits } question = .ok (.truth answer)) :
    tryAnswer { env := larger, limits } question = .ok (.truth answer) := by
  have ended : (env.toGraph.run [] question).outcome = .ok answer := outcome_of_tryAnswer answered
  have run_eq := Graph.persists_run grows alike answer ended
  rw [tryAnswer_eq] at answered ⊢
  exact (congrArg (fun run => (limits.outcome 0 run).map Answer.truth) run_eq).trans answered

end Handle

namespace Store

/-- Answers survive whatever is done to a store.  Whether two types are the same, once answered, is
answered so from then on.  So is whether one may be assigned to the other, if the root of the
hierarchy and the boxed classes stay what they are and no class has a name that reads like type
arguments. -/
theorem answers_survive (store : Store) (operations : List Operation) (limits : Limits)
    (mode : Mode) (target source : TypeId) (holds : Bool) :
    let before : Handle := { env := store.environment, limits }
    let after : Handle := { env := (store.run operations).environment, limits }
    ((before.ask (.tryOfType target source mode)).1.answer = .ok (.truth holds) →
      (after.ask (.tryOfType target source mode)).1.answer = .ok (.truth holds)) ∧
    ((store.run operations).lookupClass ClassName.object = store.lookupClass ClassName.object →
      (∀ kind : Primitive, ∀ name ∈ kind.boxedName?,
        (store.run operations).lookupClass name = store.lookupClass name) →
      store.graph.NamesPlainly →
      (before.ask (.tryAssignable target source mode)).1.answer = .ok (.truth holds) →
        (after.ask (.tryAssignable target source mode)).1.answer = .ok (.truth holds)) := by
  intro before after
  have grows : store.graph.GrowsTo (store.run operations).graph :=
    ⟨GrowsTo.run store operations, fun _ => rfl⟩
  constructor
  · intro answered
    have reply : before.tryAnswer { relation := .ofType, target, source, mode } =
        .ok (.truth holds) := answered
    exact Handle.tryAnswer_of_growsTo grows (fun assigns => by cases assigns) reply
  · intro object_eq boxed_eq plain answered
    have boxed_alike (kind : Primitive) :
        (store.run operations).graph.boxed kind = store.graph.boxed kind := by
      rw [Graph.boxed, Graph.boxed]
      cases named : kind.boxedName? with
      | none => rfl
      | some name => exact boxed_eq kind name named
    have alike : store.graph.KnowsAlike (store.run operations).graph :=
      ⟨object_eq, boxed_alike, plain⟩
    have reply : before.tryAnswer { relation := .assignableTo, target, source, mode } =
        .ok (.truth holds) := answered
    exact Handle.tryAnswer_of_growsTo grows (fun _ => alike) reply

/-- A store with two arrays, of a class and of one that extends it, and with a class that is only
reserved. -/
def unfinishedShapes : Store :=
  empty.run
    [.internClass "p.Box", .add (.classDecl { name := "p.Shape" }),
      .add (.classDecl { name := "p.Circle", supertype := some ⟨14⟩ }),
      .add (.array ⟨14⟩), .add (.array ⟨15⟩)]

/-- Operations that define the reserved class and give one of the others a method. -/
def finishing : List Operation :=
  [.define ⟨13⟩ (.classDecl { name := "p.Box" }),
    .addMethod { name := "area", declaringType := ⟨14⟩, returnType := primitive .double }]

theorem answers_survive_finishing :
    let before : Handle := { env := unfinishedShapes.environment }
    let after : Handle := { env := (unfinishedShapes.run finishing).environment }
    ((before.ask (.tryOfType ⟨16⟩ ⟨17⟩ .bound)).1.answer = .ok (.truth false) ∧
      (after.ask (.tryOfType ⟨16⟩ ⟨17⟩ .bound)).1.answer = .ok (.truth false)) ∧
    (unfinishedShapes.run finishing).lookupClass ClassName.object =
        unfinishedShapes.lookupClass ClassName.object ∧
      (∀ kind : Primitive, ∀ name ∈ kind.boxedName?,
        (unfinishedShapes.run finishing).lookupClass name = unfinishedShapes.lookupClass name) ∧
      unfinishedShapes.graph.NamesPlainly ∧
      (before.ask (.tryAssignable ⟨16⟩ ⟨17⟩ .bound)).1.answer = .ok (.truth true) ∧
      (after.ask (.tryAssignable ⟨16⟩ ⟨17⟩ .bound)).1.answer = .ok (.truth true) := by
  intro before after
  have different : (before.ask (.tryOfType ⟨16⟩ ⟨17⟩ .bound)).1.answer = .ok (.truth false) := by
    decide +kernel
  have fits : (before.ask (.tryAssignable ⟨16⟩ ⟨17⟩ .bound)).1.answer = .ok (.truth true) := by
    decide +kernel
  have object_eq : (unfinishedShapes.run finishing).lookupClass ClassName.object =
      unfinishedShapes.lookupClass ClassName.object := by decide +kernel
  have boxed_eq : ∀ kind : Primitive, ∀ name ∈ kind.boxedName?,
      (unfinishedShapes.run finishing).lookupClass name = unfinishedShapes.lookupClass name := by
    intro kind
    cases kind <;> decide +kernel
  have plain : unfinishedShapes.graph.NamesPlainly := by decide +kernel
  have still_different := (unfinishedShapes.answers_survive finishing {} .bound ⟨16⟩ ⟨17⟩ false).1
  have still_fits := (unfinishedShapes.answers_survive finishing {} .bound ⟨16⟩ ⟨17⟩ true).2
  exact ⟨⟨different, still_different different⟩, object_eq, boxed_eq, plain, fits,
    still_fits object_eq boxed_eq plain fits⟩

end Store
end JavaTypes
