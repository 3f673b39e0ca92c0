import JavaTypes.Goal
import JavaTypes.Hierarchy
import JavaTypes.Render

/-!
# Assignability to a name

A source type fits a name if a type that it extends or stands for bears the name.  A parameterized
type also bears its text as a name, and a primitive fits the keyword of a primitive that it may be
assigned to.
-/

namespace JavaTypes
namespace Graph

/-- The primitive that a name stands for as a target: the one it is the keyword of, or the marker
of string literals for the class of strings. -/
def primitiveNamed? (name : String) : Option Primitive :=
  match Primitive.ofKeyword? name with
  | some kind => some kind
  | none => if name == ClassName.string then some .string else none

/-- The goal that one type bears a name. -/
def bearsName (graph : Graph) (name : String) (id : TypeId) : Goal :=
  graph.withNode id fun node =>
    match node with
    | .primitive _ =>
      match primitiveNamed? name with
      | some kind => .assignable .bound (graph.primitive kind) id
      | none => .decided false
    | .classDecl _ | .annotationUse _ _ =>
      graph.withName id fun own => .decided (ClassName.same name own)
    | .parameterized _ _ =>
      if graph.isWritten id name then .decided true
      else graph.withName id fun own => .decided (ClassName.same name own)
    | .unknown | .array _ | .typeVariable _ | .intersection _ | .variableDecl _ | .methodDecl _
    | .multiCatch _ => .decided false

/-- The goal that a source type fits a name. -/
def fitsName (graph : Graph) (name : String) (source : TypeId) : Goal :=
  .any ((graph.walk graph.ancestors source).map (graph.bearsName name))

/-- The goal that what a variable, a method or an array comes down to is of the named class.
Supertypes are not considered. -/
def isNamedClass (graph : Graph) (name : String) (id : TypeId) : Goal :=
  graph.withNode id fun node =>
    match node with
    | .classDecl _ | .parameterized _ _ | .annotationUse _ _ =>
      graph.withName id fun own => .decided (ClassName.same own name)
    | .primitive kind => .decided (Primitive.ofKeyword? name = some kind)
    | .unknown | .array _ | .typeVariable _ | .intersection _ | .variableDecl _ | .methodDecl _
    | .multiCatch _ => .decided false

/-- The goal that a type comes down to the named class. -/
def ofClass (graph : Graph) (name : String) (id : TypeId) : Goal :=
  .any ((graph.walk graph.underlying id).map (graph.isNamedClass name))

end Graph
end JavaTypes
