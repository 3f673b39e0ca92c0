import JavaTypes.Goal

/-!
# Equality of types

Two types are the same if they are built alike from the same parts.  Classes are the same if their
names are, whatever the spelling; the marker of string literals is the same as the class of
strings; the values of annotations are compared with every type variable bound, and a single value
is the same as an array that holds it alone.
-/

namespace JavaTypes

namespace Mode

/-- Whether an open type variable on one side accepts the other side. -/
def infers (mode : Mode) (targetNode sourceNode : Node) : Bool :=
  match mode with
  | infer => targetNode.isNamedVariable
  | reverse => sourceNode.isNamedVariable
  | bound => false

end Mode

namespace Question

/-- An answer to an equality that needs no look at the parts of the types. -/
def equalAtOnce? (question : Question) (targetNode sourceNode : Node) : Option Bool :=
  if targetNode = .unknown ∨ sourceNode = .unknown then some false
  else if question.target = question.source ∨ question.mode.infers targetNode sourceNode then
    some true
  else if targetNode.isString && sourceNode.isString then some true
  else none

end Question

namespace Goal

/-- The goal that a single value equals the only value of an array. -/
def singleInArray (single : ElementContent) (array : ElementContent) : Goal :=
  match single, array with
  | .reference id, .references [only] => sameType .bound id only
  | .constant value, .constants [only] => decided (only.sameValue value)
  | _, _ => decided false

/-- The goal that two annotation elements are set to the same. -/
def sameContent : ElementContent → ElementContent → Goal
  | .constant left, .constant right => decided (left.sameValue right)
  | .reference left, .reference right => sameType .bound left right
  | .constants left, .constants right => decided (Constant.sameValues left right)
  | .references left, .references right => pairwise (sameType .bound) left right
  | .constant left, .constants right => singleInArray (.constant left) (.constants right)
  | .reference left, .references right => singleInArray (.reference left) (.references right)
  | .constants left, .constant right => singleInArray (.constant right) (.constants left)
  | .references left, .reference right => singleInArray (.reference right) (.references left)
  | .constant _, .reference _ | .constant _, .references _ | .reference _, .constant _
  | .reference _, .constants _ | .constants _, .reference _ | .constants _, .references _
  | .references _, .constant _ | .references _, .constants _ => decided false

/-- The goal that two elements are the same and are set to the same. -/
def sameElement (left right : ElementValue) : Goal :=
  both (sameType .bound left.element right.element) (sameContent left.content right.content)

/-- The goal that two annotations are written alike. -/
def sameUse (targetType sourceType : TypeId) (targets sources : List ElementValue) : Goal :=
  both (sameType .bound targetType sourceType)
    (if targets.length = sources.length then all (List.zipWith sameElement targets sources)
      else decided false)

/-- The goal that two optional types are both absent or the same. -/
def sameOptional (mode : Mode) : Option TypeId → Option TypeId → Goal
  | none, none => decided true
  | some target, some source => sameType mode target source
  | _, _ => decided false

/-- The goal that two type variables have one name, one variance and the same bounds. -/
def sameVariable (mode : Mode) (target source : TypeVariable) : Goal :=
  if target.name = source.name ∧ target.variance = source.variance then
    pairwise (sameType mode) target.bounds source.bounds
  else decided false

/-- The goal that two methods have one name, the same modifiers and the same types throughout. -/
def sameMethod (mode : Mode) (target source : MethodDecl) : Goal :=
  if target.name = source.name ∧ target.flags = source.flags ∧
      target.thrownExceptions.length = source.thrownExceptions.length ∧
      target.parameterTypes.length = source.parameterTypes.length then
    all
      [sameType mode target.declaringType source.declaringType,
        sameType mode target.returnType source.returnType,
        pairwise (sameType mode) target.parameterTypes source.parameterTypes,
        pairwise (sameType mode) target.thrownExceptions source.thrownExceptions]
  else decided false

end Goal

namespace Graph

/-- The goal that two nominal types are the same, which needs one name for both. -/
def sameNominal (graph : Graph) (question : Question) (targetNode sourceNode : Node) : Goal :=
  graph.withName question.target fun targetName =>
    graph.withName question.source fun sourceName =>
      if ClassName.same targetName sourceName then
        match targetNode, sourceNode with
        | .classDecl _, .classDecl _ => .decided true
        | .parameterized _ targets, .parameterized _ sources =>
          .pairwise (.sameType question.mode) targets sources
        | .annotationUse targetType targets, .annotationUse sourceType sources =>
          .sameUse targetType sourceType targets sources
        | _, _ => .decided (targetNode.sameValue sourceNode)
      else .decided (targetNode.sameValue sourceNode)

/-- What is left of an equality between two nodes that no shortcut settles. -/
def equalityGoal (graph : Graph) (question : Question) (targetNode sourceNode : Node) : Goal :=
  match targetNode, sourceNode with
  | .primitive target, .primitive source => .decided (target = source)
  | .array target, .array source => .sameType question.mode target source
  | .typeVariable target, .typeVariable source => .sameVariable question.mode target source
  | .methodDecl target, .methodDecl source => .sameMethod question.mode target source
  | .variableDecl target, .variableDecl source =>
    .both (.sameType question.mode target.type source.type)
      (.sameOptional question.mode target.owner source.owner)
  | _, _ =>
    if targetNode.isNominal && sourceNode.isNominal then
      graph.sameNominal question targetNode sourceNode
    else .decided (targetNode.sameValue sourceNode)

end Graph
end JavaTypes
