import JavaTypes.Graph

/-!
# Checked views of a node

Each view looks at a node as one form of type and is absent for every other form.
-/

namespace JavaTypes
namespace Graph

/-- The generic class and the arguments of a parameterized type. -/
def parameterized? (graph : Graph) (id : TypeId) : Option (TypeId × List TypeId) :=
  match graph.node id with
  | some (.parameterized base arguments) => some (base, arguments)
  | _ => none

/-- The element of an array type. -/
def element? (graph : Graph) (id : TypeId) : Option TypeId :=
  match graph.node id with
  | some (.array element) => some element
  | _ => none

/-- A type variable or wildcard. -/
def typeVariable? (graph : Graph) (id : TypeId) : Option TypeVariable :=
  match graph.node id with
  | some (.typeVariable decl) => some decl
  | _ => none

/-- A primitive. -/
def primitive? (graph : Graph) (id : TypeId) : Option Primitive :=
  match graph.node id with
  | some (.primitive kind) => some kind
  | _ => none

/-- The values that an annotation is written with. -/
def elementValues? (graph : Graph) (id : TypeId) : Option (List ElementValue) :=
  match graph.node id with
  | some (.annotationUse _ values) => some values
  | _ => none

/-- A node that carries a fully qualified name. -/
def nominal? (graph : Graph) (id : TypeId) : Option Node :=
  (graph.node id).filter Node.isNominal

/-- Whether a type is the root of the hierarchy, with or without type arguments. -/
def isObject (graph : Graph) (id : TypeId) : Bool :=
  match graph.node id with
  | some (.classDecl _) | some (.parameterized _ _) =>
    graph.qualifiedName id == some ClassName.object
  | _ => false

/-- Whether a type is the marker of string literals or the class of strings. -/
def isString (graph : Graph) (id : TypeId) : Bool := (graph.node id).any Node.isString

/-- Whether a type is a wildcard. -/
def isWildcard (graph : Graph) (id : TypeId) : Bool := (graph.node id).any Node.isWildcard

end Graph
end JavaTypes
