import JavaTypes.ByName
import JavaTypes.Equality

/-!
# Assignability of types

Whether a value of a source type may be stored in a variable of a target type.  The rules go by the
target: type arguments are compared by variance, a class is searched for by name among the types
that the source extends, arrays follow their elements and primitives widen.
-/

namespace JavaTypes

namespace Question

/-- An answer to an assignment that needs no look at the parts of the types. -/
def assignableAtOnce? (question : Question) (targetNode sourceNode : Node) : Option Bool :=
  if targetNode = .unknown ∨ sourceNode = .unknown ∨ targetNode.isWildcard then some false
  else if sourceNode = .primitive .null then
    some (match targetNode with
      | .primitive _ => false
      | _ => true)
  else if question.target = question.source ∨ question.mode.infers targetNode sourceNode then
    some true
  else none

end Question

namespace TypeVariable

/-- The type that an argument offers to a bounded wildcard: an argument that is a wildcard itself
offers its first bound, if it varies the same way. -/
def offered? (wildcard : TypeVariable) (argument : TypeId) (argumentNode : Node) :
    Option TypeId :=
  match argumentNode with
  | .typeVariable decl =>
    if decl.isWildcard then
      if decl.variance = wildcard.variance then decl.bounds.head? else none
    else some argument
  | _ => some argument

/-- The goal that a type lies within the bound of a wildcard.  A lower bound compares the other way
round. -/
def admits (wildcard : TypeVariable) (mode : Mode) (bound offered : TypeId) : Goal :=
  match wildcard.variance with
  | .covariant => .assignable mode bound offered
  | .contravariant => .assignable mode.dual offered bound
  | .invariant => .decided false

end TypeVariable

namespace Graph

/-- The goal that a type argument lies within a wildcard with a given first bound. -/
def withinWildcard (graph : Graph) (mode : Mode) (wildcard : TypeVariable) (bound : TypeId)
    (argument : TypeId) : Goal :=
  graph.withNode argument fun argumentNode =>
    match wildcard.offered? argument argumentNode with
    | some offered => wildcard.admits mode bound offered
    | none => .decided false

/-- The goal that one type argument fits another: it lies within a wildcard, or is the same type. -/
def argumentFits (graph : Graph) (mode : Mode) (target source : TypeId) : Goal :=
  graph.withNode target fun targetNode =>
    match targetNode with
    | .typeVariable decl =>
      if decl.isWildcard then
        match decl.bounds with
        | [] => .decided true
        | bound :: _ => graph.withinWildcard mode decl bound source
      else .sameType mode target source
    | _ => .sameType mode target source

/-- The goal that a type argument is a wildcard without bounds. -/
def acceptsAnything (graph : Graph) (argument : TypeId) : Goal :=
  graph.withNode argument fun node =>
    match node with
    | .typeVariable decl => .decided decl.isUnbounded
    | _ => .decided false

/-- The goal that a source fits a parameterized type.  A source without type arguments fits only
where every argument is a wildcard without bounds. -/
def assignableToParameterized (graph : Graph) (question : Question) (base : TypeId)
    (arguments : List TypeId) (sourceNode : Node) : Goal :=
  match sourceNode with
  | .parameterized sourceBase sourceArguments =>
    if arguments.length = sourceArguments.length then
      .both (.assignable question.mode base sourceBase)
        (.all (List.zipWith (graph.argumentFits question.mode) arguments sourceArguments))
    else .decided false
  | _ =>
    .both (.all (arguments.map graph.acceptsAnything))
      (.assignable question.mode base question.source)

/-- The goal that a source fits a class: a primitive does by boxing, an intersection by one of its
bounds, anything else by the name of the class. -/
def assignableToClass (graph : Graph) (question : Question) (sourceNode : Node) : Goal :=
  match sourceNode with
  | .primitive kind =>
    match graph.boxed kind with
    | some boxed => .assignable question.mode question.target boxed
    | none => .decided false
  | .intersection bounds =>
    .any ((LazyList.ofList bounds).map (.assignable question.mode question.target))
  | .typeVariable _ => .decided false
  | _ => graph.withName question.target fun name => graph.fitsName name question.source

/-- The goal that a source fits an array.  Elements that are primitives have to be the same. -/
def assignableToArray (graph : Graph) (question : Question) (element : TypeId)
    (sourceNode : Node) : Goal :=
  match sourceNode with
  | .array sourceElement =>
    graph.withNode element fun elementNode =>
      match elementNode with
      | .primitive _ => .sameType .bound element sourceElement
      | _ => .assignable question.mode element sourceElement
  | _ => .decided false

/-- The goal that a source fits a primitive, by widening and after unboxing. -/
def assignableToPrimitive (graph : Graph) (question : Question) (kind : Primitive)
    (sourceNode : Node) : Goal :=
  match sourceNode with
  | .primitive source => .decided (kind.widens source)
  | _ =>
    if sourceNode.isNominal then
      graph.withName question.source fun name =>
        .decided ((Primitive.ofClassName? name).any kind.widens)
    else .decided false

/-- What is left of an assignment between two nodes that no shortcut settles. -/
def assignabilityGoal (graph : Graph) (question : Question) (targetNode sourceNode : Node) : Goal :=
  match targetNode with
  | .parameterized base arguments =>
    graph.assignableToParameterized question base arguments sourceNode
  | .typeVariable _ => .decided (question.mode = .infer)
  | .classDecl _ | .annotationUse _ _ => graph.assignableToClass question sourceNode
  | .array element => graph.assignableToArray question element sourceNode
  | .primitive kind => graph.assignableToPrimitive question kind sourceNode
  | .variableDecl decl => .assignable question.mode decl.type question.source
  | .methodDecl decl => .assignable question.mode decl.returnType question.source
  | .unknown | .intersection _ | .multiCatch _ => .decided false

end Graph
end JavaTypes
