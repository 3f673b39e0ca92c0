import JavaTypes.Proofs.Reachability
import JavaTypes.Proofs.Sameness

/-!
# Assignability of types

What may be assigned to a target is told by one rule for each kind of target.  The rules refer to
assignability itself, to sameness and to the types that a source leads to; the relation meant is the
greatest one that obeys them.
-/

namespace JavaTypes

namespace TypeVariable

/-- Whether a type lies within a bound of a wildcard; a lower bound compares the other way round. -/
def Admits (wildcard : TypeVariable) (assignable : TypeRelation) (mode : Mode)
    (bound offered : TypeId) : Prop :=
  match wildcard.variance with
  | .covariant => assignable mode bound offered
  | .contravariant => assignable mode.dual offered bound
  | .invariant => False

end TypeVariable

namespace Node

/-- Whether a node is neither unresolved nor a type variable. -/
def isDeterminate : Node → Bool
  | unknown | typeVariable _ => false
  | _ => true

variable {node : Node}

theorem ne_unknown_of_isDeterminate (determinate : node.isDeterminate = true) : node ≠ unknown := by
  rintro rfl
  cases determinate

theorem isWildcard_of_isDeterminate (determinate : node.isDeterminate = true) :
    node.isWildcard = false := by
  cases node with
  | typeVariable decl => cases determinate
  | _ => rfl

theorem isNamedVariable_of_isDeterminate (determinate : node.isDeterminate = true) :
    node.isNamedVariable = false := by
  cases node with
  | typeVariable decl => cases determinate
  | _ => rfl

end Node

theorem Goal.holds_any_map {answer : Question → Prop} {α : Type} {items : LazyList α}
    {goal : α → Goal} :
    (any (items.map goal)).Holds answer ↔ ∃ item ∈ items.toList, (goal item).Holds answer := by
  rw [holds_any, LazyList.toList_map]
  simp only [List.mem_map, exists_exists_and_eq_and]

namespace Graph

/-- Whether one type argument fits another: it lies within the first bound of a wildcard, if that
has any, or else is the same type. -/
def ArgumentFits (graph : Graph) (same assignable : TypeRelation) (mode : Mode)
    (target source : TypeId) : Prop :=
  ∃ targetNode ∈ graph.node target,
    match targetNode with
    | .typeVariable decl =>
        if decl.isWildcard then
          ∀ bound ∈ decl.bounds.head?, ∃ sourceNode ∈ graph.node source,
            ∃ offered ∈ decl.offered? source sourceNode, decl.Admits assignable mode bound offered
        else same mode target source
    | _ => same mode target source

/-- Whether a type argument is a wildcard without bounds. -/
def AcceptsAnything (graph : Graph) (argument : TypeId) : Prop :=
  ∃ decl, graph.node argument = some (.typeVariable decl) ∧ decl.isUnbounded

/-- Whether a nominal type has a name, in either spelling. -/
def IsCalled (graph : Graph) (name : String) (id : TypeId) : Prop :=
  ∃ own ∈ graph.qualifiedName id, ClassName.normalize name = ClassName.normalize own

/-- Whether a type bears a name: its own, its text, or that of a primitive that it may be assigned
to. -/
def BearsName (graph : Graph) (assignable : TypeRelation) (name : String) (id : TypeId) : Prop :=
  ∃ node ∈ graph.node id,
    match node with
    | .primitive _ =>
        ∃ kind ∈ primitiveNamed? name, assignable .bound (graph.primitive kind) id
    | .classDecl _ | .annotationUse _ _ => graph.IsCalled name id
    | .parameterized _ _ => graph.isWritten id name ∨ graph.IsCalled name id
    | _ => False

/-- Whether a source fits a class: a primitive does by boxing, an intersection by one of its bounds,
anything else if it leads to a type that bears the name of the class. -/
def FitsClass (graph : Graph) (assignable : TypeRelation) (mode : Mode) (target source : TypeId) :
    Node → Prop
  | .primitive kind => ∃ boxed ∈ graph.boxed kind, assignable mode target boxed
  | .intersection bounds => ∃ bound ∈ bounds, assignable mode target bound
  | .typeVariable _ => False
  | _ =>
      ∃ name ∈ graph.qualifiedName target, ∃ id,
        Relation.ReflTransGen (Leads graph.ancestors) source id ∧
          graph.BearsName assignable name id

/-- Whether a source fits a parameterized type: argument by argument, or without arguments of its
own where every argument is a wildcard without bounds. -/
def FitsParameterized (graph : Graph) (same assignable : TypeRelation) (mode : Mode)
    (base : TypeId) (arguments : List TypeId) (source : TypeId) : Node → Prop
  | .parameterized sourceBase sourceArguments =>
      assignable mode base sourceBase ∧
        List.Forall₂ (graph.ArgumentFits same assignable mode) arguments sourceArguments
  | _ => (∀ argument ∈ arguments, graph.AcceptsAnything argument) ∧ assignable mode base source

/-- Whether a source fits an array: elements that are primitives have to be the same. -/
def FitsArray (graph : Graph) (same assignable : TypeRelation) (mode : Mode) (element : TypeId) :
    Node → Prop
  | .array sourceElement =>
      ∃ elementNode ∈ graph.node element,
        match elementNode with
        | .primitive _ => same .bound element sourceElement
        | _ => assignable mode element sourceElement
  | _ => False

/-- Whether a source fits a primitive, by widening and after unboxing. -/
def FitsPrimitive (graph : Graph) (kind : Primitive) (source : TypeId) : Node → Prop
  | .primitive offered => kind.widens offered
  | sourceNode =>
      sourceNode.isNominal ∧ ∃ name ∈ graph.qualifiedName source,
        ∃ unboxed ∈ Primitive.ofClassName? name, kind.widens unboxed

/-- Whether a source fits a target, by the kind of the target. -/
def Fits (graph : Graph) (same assignable : TypeRelation) (mode : Mode) (target source : TypeId)
    (sourceNode : Node) : Node → Prop
  | .parameterized base arguments =>
      graph.FitsParameterized same assignable mode base arguments source sourceNode
  | .typeVariable _ => mode = .infer
  | .classDecl _ | .annotationUse _ _ => graph.FitsClass assignable mode target source sourceNode
  | .array element => graph.FitsArray same assignable mode element sourceNode
  | .primitive kind => graph.FitsPrimitive kind source sourceNode
  | .variableDecl decl => assignable mode decl.type source
  | .methodDecl decl => assignable mode decl.returnType source
  | .unknown | .intersection _ | .multiCatch _ => False

/-- The rule for assignability, where types are compared by given relations for sameness and for
assignability. -/
def AssignableBy (graph : Graph) (same assignable : TypeRelation) : TypeRelation :=
  fun mode target source =>
    ∃ targetNode ∈ graph.node target, ∃ sourceNode ∈ graph.node source,
      targetNode ≠ .unknown ∧ sourceNode ≠ .unknown ∧ targetNode.isWildcard = false ∧
        if sourceNode = .primitive .null then ∀ kind, targetNode ≠ .primitive kind
        else target = source ∨ mode.infers targetNode sourceNode ∨
          graph.Fits same assignable mode target source sourceNode targetNode

variable {graph : Graph} {answer : Question → Prop} {question : Question} {mode : Mode}
  {id target source : TypeId} {targetNode sourceNode : Node} {name : String}

theorem holds_withNode {next : Node → Goal} :
    (graph.withNode id next).Holds answer ↔
      ∃ node ∈ graph.node id, (next node).Holds answer := by
  rw [withNode]
  cases graph.node id <;> simp [Goal.Holds]

theorem holds_admits {wildcard : TypeVariable} {bound offered : TypeId} :
    (wildcard.admits mode bound offered).Holds answer ↔
      wildcard.Admits (Relation.assignableTo.among answer) mode bound offered := by
  rw [TypeVariable.admits, TypeVariable.Admits]
  cases wildcard.variance <;> simp [Goal.Holds, Goal.assignable, Relation.among]

theorem holds_withinWildcard {wildcard : TypeVariable} {bound : TypeId} :
    (graph.withinWildcard mode wildcard bound source).Holds answer ↔
      ∃ sourceNode ∈ graph.node source, ∃ offered ∈ wildcard.offered? source sourceNode,
        wildcard.Admits (Relation.assignableTo.among answer) mode bound offered := by
  refine holds_withNode.trans (exists_congr fun sourceNode => and_congr_right' ?_)
  cases wildcard.offered? source sourceNode with
  | none => simp [Goal.Holds]
  | some offered => simpa using holds_admits

theorem holds_argumentFits :
    (graph.argumentFits mode target source).Holds answer ↔
      graph.ArgumentFits (Relation.ofType.among answer) (Relation.assignableTo.among answer) mode
        target source := by
  refine holds_withNode.trans (exists_congr fun targetNode => and_congr_right' ?_)
  cases targetNode
  case typeVariable decl =>
    dsimp only
    split
    · cases decl.bounds with
      | nil => simp [Goal.Holds]
      | cons bound others => simpa using holds_withinWildcard
    · exact Iff.rfl
  all_goals exact Iff.rfl

theorem holds_acceptsAnything :
    (graph.acceptsAnything id).Holds answer ↔ graph.AcceptsAnything id := by
  rw [acceptsAnything, holds_withNode, AcceptsAnything]
  constructor
  · rintro ⟨node, node_eq, holds⟩
    cases node
    case typeVariable decl => exact ⟨decl, node_eq, holds⟩
    all_goals exact absurd holds Bool.false_ne_true
  · rintro ⟨decl, node_eq, unbounded⟩
    exact ⟨.typeVariable decl, node_eq, unbounded⟩

theorem holds_isCalled :
    (graph.withName id fun own => .decided (ClassName.same name own)).Holds answer ↔
      graph.IsCalled name id :=
  holds_withName.trans (exists_congr fun _ => and_congr_right fun _ => ClassName.same_iff)

theorem holds_bearsName :
    (graph.bearsName name id).Holds answer ↔
      graph.BearsName (Relation.assignableTo.among answer) name id := by
  refine holds_withNode.trans (exists_congr fun node => and_congr_right' ?_)
  cases node
  case primitive kind =>
    dsimp only
    cases primitiveNamed? name with
    | none => simp [Goal.Holds]
    | some named => simp [Goal.Holds, Goal.assignable, Relation.among]
  case classDecl decl => exact holds_isCalled
  case annotationUse type values => exact holds_isCalled
  case parameterized base arguments =>
    dsimp only
    split
    · next written => exact iff_of_true rfl (Or.inl written)
    · next unwritten => exact holds_isCalled.trans (or_iff_right unwritten).symm
  all_goals exact iff_of_false Bool.false_ne_true not_false

theorem mem_walk_ancestors_iff :
    id ∈ (graph.walk graph.ancestors source).toList ↔
      Relation.ReflTransGen (Leads graph.ancestors) source id :=
  mem_walk_iff ancestors_defined

/-- The walk that looks for a name visits every type that the source leads to. -/
theorem holds_fitsName :
    (graph.fitsName name source).Holds answer ↔
      ∃ id, Relation.ReflTransGen (Leads graph.ancestors) source id ∧
        graph.BearsName (Relation.assignableTo.among answer) name id :=
  Goal.holds_any_map.trans
    (exists_congr fun _ => and_congr mem_walk_ancestors_iff holds_bearsName)

theorem holds_assignableToClass :
    (graph.assignableToClass question sourceNode).Holds answer ↔
      graph.FitsClass (Relation.assignableTo.among answer) question.mode question.target
        question.source sourceNode := by
  cases sourceNode
  case primitive kind =>
    rw [assignableToClass, FitsClass]
    cases graph.boxed kind with
    | none => simp [Goal.Holds]
    | some boxed => simp [Goal.Holds, Goal.assignable, Relation.among]
  case intersection bounds =>
    rw [assignableToClass, Goal.holds_any_map, LazyList.toList_ofList]
    exact Iff.rfl
  case typeVariable decl => exact iff_of_false Bool.false_ne_true not_false
  all_goals exact holds_withName.trans (exists_congr fun name => and_congr_right' holds_fitsName)

theorem holds_assignableToParameterized {base : TypeId} {arguments : List TypeId} :
    (graph.assignableToParameterized question base arguments sourceNode).Holds answer ↔
      graph.FitsParameterized (Relation.ofType.among answer) (Relation.assignableTo.among answer)
        question.mode base arguments question.source sourceNode := by
  cases sourceNode
  case parameterized sourceBase sourceArguments =>
    have fits : (arguments.length = sourceArguments.length ∧ (Goal.all (List.zipWith
          (graph.argumentFits question.mode) arguments sourceArguments)).Holds answer) ↔
        List.Forall₂ (graph.ArgumentFits (Relation.ofType.among answer)
          (Relation.assignableTo.among answer) question.mode) arguments sourceArguments := by
      rw [Goal.holds_zipWith]
      simp only [holds_argumentFits]
    rw [assignableToParameterized, FitsParameterized]
    split
    · next length_eq =>
        refine and_congr Iff.rfl ?_
        rw [← fits, and_iff_right length_eq]
    · next length_ne =>
        refine iff_of_false Bool.false_ne_true ?_
        rintro ⟨-, forall₂⟩
        exact length_ne forall₂.length_eq
  all_goals
    refine and_congr ?_ Iff.rfl
    rw [Goal.holds_all, List.forall_mem_map]
    exact forall₂_congr fun _ _ => holds_acceptsAnything

theorem holds_assignableToArray {element : TypeId} :
    (graph.assignableToArray question element sourceNode).Holds answer ↔
      graph.FitsArray (Relation.ofType.among answer) (Relation.assignableTo.among answer)
        question.mode element sourceNode := by
  cases sourceNode
  case array sourceElement =>
    refine holds_withNode.trans (exists_congr fun elementNode => and_congr_right' ?_)
    cases elementNode <;> exact Iff.rfl
  all_goals exact iff_of_false Bool.false_ne_true not_false

theorem holds_assignableToPrimitive {kind : Primitive} :
    (graph.assignableToPrimitive question kind sourceNode).Holds answer ↔
      graph.FitsPrimitive kind question.source sourceNode := by
  have unboxing : (graph.withName question.source fun name =>
        .decided ((Primitive.ofClassName? name).any kind.widens)).Holds answer ↔
      ∃ name ∈ graph.qualifiedName question.source,
        ∃ unboxed ∈ Primitive.ofClassName? name, kind.widens unboxed := by
    refine holds_withName.trans (exists_congr fun name => and_congr_right' ?_)
    rw [Goal.Holds, Option.any_eq_true]
    rfl
  cases sourceNode
  case primitive offered => exact Iff.rfl
  case classDecl | parameterized | annotationUse => exact unboxing.trans (and_iff_right rfl).symm
  all_goals exact iff_of_false Bool.false_ne_true fun fits => Bool.false_ne_true fits.1

theorem holds_assignabilityGoal :
    (graph.assignabilityGoal question targetNode sourceNode).Holds answer ↔
      graph.Fits (Relation.ofType.among answer) (Relation.assignableTo.among answer) question.mode
        question.target question.source sourceNode targetNode := by
  cases targetNode
  case parameterized base arguments => exact holds_assignableToParameterized
  case typeVariable decl => exact decide_eq_true_iff
  case classDecl | annotationUse => exact holds_assignableToClass
  case array element => exact holds_assignableToArray
  case primitive kind => exact holds_assignableToPrimitive
  case variableDecl | methodDecl => exact Iff.rfl
  all_goals exact iff_of_false Bool.false_ne_true not_false

/-- An assignment is justified exactly if the rule for assignability says so. -/
theorem justified_assignableTo :
    graph.Justified answer { relation := .assignableTo, target, source, mode } ↔
      graph.AssignableBy (Relation.ofType.among answer) (Relation.assignableTo.among answer) mode
        target source := by
  refine justified_iff.trans (exists_congr fun targetNode => and_congr_right' ?_)
  refine exists_congr fun sourceNode => and_congr_right' ?_
  dsimp only [atOnce?, Question.assignableAtOnce?]
  by_cases refused : targetNode = .unknown ∨ sourceNode = .unknown ∨ targetNode.isWildcard
  · rw [if_pos refused]
    refine iff_of_false Bool.false_ne_true ?_
    rintro ⟨target_known, source_known, not_wildcard, -⟩
    rcases refused with unknown | unknown | wildcard
    · exact target_known unknown
    · exact source_known unknown
    · exact Bool.false_ne_true (not_wildcard.symm.trans wildcard)
  obtain ⟨target_known, source_known, not_wildcard⟩ : targetNode ≠ .unknown ∧
      sourceNode ≠ .unknown ∧ targetNode.isWildcard = false := by
    simpa only [not_or, Bool.not_eq_true] using refused
  rw [if_neg refused, and_iff_right target_known, and_iff_right source_known,
    and_iff_right not_wildcard]
  by_cases null : sourceNode = .primitive .null
  · rw [if_pos null, if_pos null]
    cases targetNode <;> simp
  rw [if_neg null, if_neg null]
  by_cases shortcut : target = source ∨ mode.infers targetNode sourceNode
  · rw [if_pos shortcut, ← or_assoc]
    exact iff_of_true rfl (Or.inl shortcut)
  rw [if_neg shortcut, ← or_assoc, or_iff_right shortcut]
  exact holds_assignabilityGoal

/-- The rule for assignability as a function of the relation that it refers to, where sameness is
what it is. -/
def assignableRules (graph : Graph) : TypeRelation →o TypeRelation where
  toFun := graph.AssignableBy graph.Same
  monotone' := by
    intro assignable larger le mode target source fits
    have justified : graph.Justified (Relation.answers graph.Same assignable)
        { relation := .assignableTo, target, source, mode } := justified_assignableTo.mpr fits
    exact justified_assignableTo.mp (justified.mono (Relation.answers_mono le_rfl le))

/-- Assignability of types: the greatest relation that obeys its own rule. -/
def Assignable (graph : Graph) : TypeRelation := graph.assignableRules.gfp

theorem assignable_iff_assignableBy :
    graph.Assignable mode target source ↔
      graph.AssignableBy graph.Same graph.Assignable mode target source :=
  iff_of_eq (congrFun (congrFun (congrFun graph.assignableRules.map_gfp.symm mode) target) source)

section

variable (target_eq : graph.node target = some targetNode)
  (target_determinate : targetNode.isDeterminate = true)

include target_eq target_determinate

/-- `null` may be assigned to what is determinate and not a primitive. -/
theorem assignable_null_iff (source_eq : graph.node source = some (.primitive .null)) :
    graph.Assignable mode target source ↔ ∀ kind, targetNode ≠ .primitive kind := by
  rw [assignable_iff_assignableBy]
  simp [AssignableBy, target_eq, source_eq, Node.ne_unknown_of_isDeterminate,
    Node.isWildcard_of_isDeterminate, target_determinate]

/-- Between determinate types, and from anything but `null`, the kind of the target decides. -/
theorem assignable_iff_fits (source_eq : graph.node source = some sourceNode)
    (source_determinate : sourceNode.isDeterminate = true)
    (not_null : sourceNode ≠ .primitive .null) :
    graph.Assignable mode target source ↔ target = source ∨
      graph.Fits graph.Same graph.Assignable mode target source sourceNode targetNode := by
  have not_inferred : mode.infers targetNode sourceNode = false := by
    cases mode with
    | bound => rfl
    | infer => exact Node.isNamedVariable_of_isDeterminate target_determinate
    | reverse => exact Node.isNamedVariable_of_isDeterminate source_determinate
  rw [assignable_iff_assignableBy]
  simp [AssignableBy, target_eq, source_eq, not_null, not_inferred,
    Node.ne_unknown_of_isDeterminate, Node.isWildcard_of_isDeterminate, target_determinate,
    source_determinate]

end

/-- A source without arguments of its own may be assigned to a parameterized type only if all the
arguments of that accept anything. -/
theorem assignable_raw_iff {base : TypeId} {arguments : List TypeId}
    (target_eq : graph.node target = some (.parameterized base arguments))
    (source_eq : graph.node source = some sourceNode)
    (source_determinate : sourceNode.isDeterminate = true)
    (not_null : sourceNode ≠ .primitive .null)
    (raw : ∀ sourceBase offered, sourceNode ≠ .parameterized sourceBase offered) :
    graph.Assignable mode target source ↔
      (∀ argument ∈ arguments, graph.AcceptsAnything argument) ∧
        graph.Assignable mode base source := by
  have apart : target ≠ source := by
    rintro rfl
    exact raw _ _ (Option.some.inj (source_eq.symm.trans target_eq))
  rw [assignable_iff_fits target_eq rfl source_eq source_determinate not_null, or_iff_right apart]
  cases sourceNode with
  | parameterized sourceBase offered => exact absurd rfl (raw sourceBase offered)
  | _ => exact Iff.rfl

/-- A source may be assigned to a target exactly if the question whether it may is true. -/
theorem assignable_iff_valid :
    graph.Assignable mode target source ↔
      graph.Valid { relation := .assignableTo, target, source, mode } := by
  constructor
  · intro assignable
    have closed : ∀ question, Relation.answers graph.Same graph.Assignable question →
        graph.Justified (Relation.answers graph.Same graph.Assignable) question := by
      rintro ⟨relation, target, source, mode⟩ answered
      cases relation with
      | ofType => exact justified_ofType.mpr (same_iff_sameBy.mp answered)
      | assignableTo => exact justified_assignableTo.mpr (assignable_iff_assignableBy.mp answered)
    exact valid_of_closed closed assignable
  · intro valid
    have same_eq : Relation.ofType.among graph.Valid = graph.Same := by
      funext mode target source
      exact propext same_iff_valid.symm
    have le : Relation.assignableTo.among graph.Valid ≤
        graph.assignableRules (Relation.assignableTo.among graph.Valid) := by
      intro mode target source found
      have fits : graph.AssignableBy (Relation.ofType.among graph.Valid)
          (Relation.assignableTo.among graph.Valid) mode target source :=
        justified_assignableTo.mp (valid_iff.mp found)
      rw [same_eq] at fits
      exact fits
    exact graph.assignableRules.le_gfp le mode target source valid

end Graph

namespace Handle

/-- A handle that decides whether a source may be assigned to a target decides it right, however the
types refer to each other: it may if the handle says yes, and it may not if the handle says no. -/
theorem assignable_iff_of_tryAssignable {handle : Handle} {mode : Mode} {target source : TypeId}
    {holds : Bool}
    (answered : (handle.ask (.tryAssignable target source mode)).1.answer = .ok (.truth holds)) :
    handle.env.toGraph.Assignable mode target source ↔ holds = true := by
  have reply : handle.tryAnswer { relation := .assignableTo, target, source, mode } =
      .ok (.truth holds) := answered
  exact Graph.assignable_iff_valid.trans (valid_iff_of_tryAnswer reply)

/-- A handle for a graph with two endless types `Box<? super Box<? super Box<…>>>`. -/
def recursiveWildcards : Handle where
  env := (Store.empty.run
    [.add (.classDecl { name := "Box" }), .reserve, .add (.parameterized ⟨13⟩ [⟨14⟩]),
      .define ⟨14⟩ (.typeVariable { name := "?", variance := .contravariant, bounds := [⟨15⟩] }),
      .reserve, .add (.parameterized ⟨13⟩ [⟨16⟩]),
      .define ⟨16⟩
        (.typeVariable { name := "?", variance := .contravariant, bounds := [⟨17⟩] })]).environment

theorem assignable_of_recursiveWildcards :
    (recursiveWildcards.ask (.tryAssignable ⟨15⟩ ⟨17⟩ .infer)).1.answer = .ok (.truth true) ∧
      recursiveWildcards.env.toGraph.Assignable .infer ⟨15⟩ ⟨17⟩ :=
  ⟨rfl, (assignable_iff_of_tryAssignable rfl).mpr rfl⟩

end Handle
end JavaTypes
