import JavaTypes.Binary64
import JavaTypes.ClassName
import JavaTypes.Flags
import JavaTypes.Primitive

/-!
# Nodes of a type graph

Types form a graph: a class lists its methods, a method points back at its declaring class, and a
type variable may occur inside its own bound.  A node therefore refers to other nodes by identity,
and a reference may also lead nowhere.
-/

namespace JavaTypes

/-- Identity of a node. -/
structure TypeId where
  /-- Number of the node's slot. -/
  raw : Nat
  deriving DecidableEq, Repr

namespace TypeId

/-- How an identity is written in messages. -/
def describe (id : TypeId) : String := "TypeId(" ++ toString id.raw ++ ")"

/-- Identities are ordered by their slots. -/
instance : Ord TypeId where
  compare := compareOn raw

instance : Std.TransOrd TypeId := inferInstanceAs (Std.TransCmp (compareOn _))

instance : Std.LawfulEqOrd TypeId where
  eq_of_compare h := congrArg mk (Std.LawfulEqOrd.eq_of_compare h)

end TypeId

/-- The forms of class declaration. -/
inductive ClassKind where
  | plain
  | interface
  | enumeration
  | record
  | annotationType
  deriving DecidableEq, Repr

/-- How the arguments of a generic type vary with the type. -/
inductive Variance where
  | invariant
  | covariant
  | contravariant
  deriving DecidableEq, Repr

/-- A class without type arguments, or the generic declaration behind a parameterized type. -/
structure ClassDecl where
  /-- Fully qualified name, in either spelling of nested classes. -/
  name : String
  kind : ClassKind := .plain
  flags : Flags := .empty
  /-- The declared superclass. -/
  supertype : Option TypeId := none
  interfaces : List TypeId := []
  /-- The declared type parameters, which are type variables. -/
  typeParameters : List TypeId := []
  methods : List TypeId := []
  members : List TypeId := []
  /-- The class that a nested class is declared in. -/
  owner : Option TypeId := none
  deriving DecidableEq, Repr

/-- A constant in an annotation. -/
inductive Constant where
  | bool (value : Bool)
  | char (value : Char)
  | int (value : Int64)
  | float (value : Binary64)
  | string (value : String)
  deriving DecidableEq, Repr

/-- What an annotation element is set to: one value or an array, of constants or of references. -/
inductive ElementContent where
  | constant (value : Constant)
  | reference (id : TypeId)
  | constants (values : List Constant)
  | references (ids : List TypeId)
  deriving DecidableEq, Repr

/-- One `element = value` pair of an annotation. -/
structure ElementValue where
  /-- The method of the annotation type that declares the element. -/
  element : TypeId
  content : ElementContent
  deriving DecidableEq, Repr

/-- A named type variable, or a wildcard when the name is `?`. -/
structure TypeVariable where
  name : String
  variance : Variance := .invariant
  bounds : List TypeId := []
  deriving DecidableEq, Repr

/-- A field, local variable or parameter. -/
structure VariableDecl where
  name : String
  owner : Option TypeId := none
  type : TypeId
  flags : Flags := .empty
  deriving DecidableEq, Repr

/-- A method of a class. -/
structure MethodDecl where
  name : String
  declaringType : TypeId
  returnType : TypeId
  parameterNames : List String := []
  parameterTypes : List TypeId := []
  thrownExceptions : List TypeId := []
  flags : Flags := .empty
  deriving DecidableEq, Repr

/-- A node of the type graph. -/
inductive Node where
  | primitive (kind : Primitive)
  /-- A type that could not be resolved. -/
  | unknown
  | classDecl (decl : ClassDecl)
  /-- A generic class applied to type arguments. -/
  | parameterized (base : TypeId) (arguments : List TypeId)
  /-- An annotation as written, with the values of its elements. -/
  | annotationUse (type : TypeId) (values : List ElementValue)
  | array (element : TypeId)
  | typeVariable (decl : TypeVariable)
  | intersection (bounds : List TypeId)
  | variableDecl (decl : VariableDecl)
  | methodDecl (decl : MethodDecl)
  /-- The alternatives of a multi-catch clause. -/
  | multiCatch (alternatives : List TypeId)
  deriving DecidableEq, Repr

namespace TypeVariable

/-- The name of every wildcard. -/
def wildcardName : String := "?"

/-- Whether a type variable is a wildcard. -/
def isWildcard (decl : TypeVariable) : Bool := decl.name == wildcardName

/-- A wildcard without bounds, which any type argument fits. -/
def isUnbounded (decl : TypeVariable) : Bool := decl.isWildcard && decl.bounds.isEmpty

end TypeVariable

namespace MethodDecl

/-- Gives a method its parameters, named by position. -/
def withParameters (decl : MethodDecl) (types : List TypeId) : MethodDecl :=
  { decl with
    parameterNames := (List.range types.length).map fun position => "arg" ++ toString position
    parameterTypes := types }

end MethodDecl

namespace Constant

/-- Equality of values; floating-point constants are compared as numbers. -/
def sameValue : Constant → Constant → Bool
  | float left, float right => left.sameValue right
  | left, right => left == right

/-- Equality of lists of values, position by position. -/
def sameValues : List Constant → List Constant → Bool
  | [], [] => true
  | left :: lefts, right :: rights => left.sameValue right && sameValues lefts rights
  | _, _ => false

end Constant

namespace ElementContent

/-- Equality of values, without looking behind references. -/
def sameValue : ElementContent → ElementContent → Bool
  | constant left, constant right => left.sameValue right
  | constants left, constants right => Constant.sameValues left right
  | left, right => left == right

end ElementContent

namespace ElementValue

/-- Equality of values for lists of elements, without looking behind references. -/
def sameValues : List ElementValue → List ElementValue → Bool
  | [], [] => true
  | left :: lefts, right :: rights =>
    left.element == right.element && left.content.sameValue right.content &&
      sameValues lefts rights
  | _, _ => false

end ElementValue

namespace Node

/-- Nodes that carry a fully qualified name: classes, parameterized types and annotations. -/
def isNominal : Node → Bool
  | classDecl _ | parameterized _ _ | annotationUse _ _ => true
  | _ => false

/-- Whether a node is a wildcard. -/
def isWildcard : Node → Bool
  | typeVariable decl => decl.isWildcard
  | _ => false

/-- Whether a node is a type variable with a name of its own. -/
def isNamedVariable : Node → Bool
  | typeVariable decl => !decl.isWildcard
  | _ => false

/-- The marker of string literals and the class of strings itself. -/
def isString : Node → Bool
  | primitive kind => kind == .string
  | classDecl decl => decl.name == ClassName.string
  | _ => false

/-- The kind of a node in words. -/
def kindName : Node → String
  | primitive _ => "primitive"
  | unknown => "unknown"
  | classDecl _ => "class"
  | parameterized _ _ => "parameterized"
  | annotationUse _ _ => "annotation"
  | array _ => "array"
  | typeVariable _ => "generic type variable"
  | intersection _ => "intersection"
  | variableDecl _ => "variable"
  | methodDecl _ => "method"
  | multiCatch _ => "multi-catch"

/-- Equality of nodes as values, without looking behind references. -/
def sameValue : Node → Node → Bool
  | annotationUse leftType leftValues, annotationUse rightType rightValues =>
    leftType == rightType && ElementValue.sameValues leftValues rightValues
  | left, right => left == right

end Node
end JavaTypes
