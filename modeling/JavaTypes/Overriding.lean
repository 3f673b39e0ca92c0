import JavaTypes.Check

/-!
# Overriding

A method overrides the first method of its name and parameters found among the supertypes of its
declaring class, provided that one is visible there and belongs to instances.
-/

namespace JavaTypes
namespace Graph

/-- The type that a class puts in the place of a declared type parameter.  If a parameter is
declared twice, the later position counts. -/
def substituted? (declared supplied : List TypeId) (parameter : TypeId) : Option TypeId :=
  (declared.zip supplied).reverse.lookup parameter

/-- The goal that a declared parameter takes an argument of the given type: it is that type, or a
type parameter that stands for it. -/
def takes (declared supplied : List TypeId) (parameter argument : TypeId) : Goal :=
  .either (.sameType .bound parameter argument) fun _ =>
    .decided (substituted? declared supplied parameter = some argument)

/-- The goal that a method, seen through a type, has the given name and parameters.  The type
parameters of the declaring class are replaced by those that the type supplies. -/
def hasSignature (graph : Graph) (through : TypeId) (name : String) (arguments : List TypeId)
    (method : TypeId) : Goal :=
  graph.withNode method fun node =>
    match node with
    | .methodDecl decl =>
      if decl.name = name ∧ decl.parameterTypes.length = arguments.length then
        let declared := graph.typeParameters decl.declaringType
        let supplied := graph.typeParameters through
        if declared.length = supplied.length then
          .all (List.zipWith (takes declared supplied) decl.parameterTypes arguments)
        else .decided false
      else .decided false
    | _ => .decided false

/-- The methods that a type lists, each with the goal that it has the given name and parameters. -/
def candidatesAt (graph : Graph) (name : String) (arguments : List TypeId) (type : TypeId) :
    List (TypeId × Goal) :=
  match graph.node type with
  | none => [(type, .stuck (.danglingType type))]
  | some _ =>
    (graph.methods type).map fun method =>
      (method, graph.hasSignature type name arguments method)

/-- The methods of a type and of its supertypes, in the order in which they are considered. -/
def candidates (graph : Graph) (name : String) (arguments : List TypeId) (type : TypeId) :
    LazyList (TypeId × Goal) :=
  (graph.walk graph.declaredSupertypes type).flatMap (graph.candidatesAt name arguments)

/-- The first method of the given name and parameters on a type or its supertypes. -/
def declaredMethod (graph : Graph) (limits : Limits) (type : TypeId) (name : String)
    (arguments : List TypeId) : Search (Option TypeId) :=
  Goal.firstHolding (graph.ask limits) (graph.candidates name arguments type)

end Graph

namespace Environment

/-- Whether a method may be overridden from a type: it belongs to instances and is not private, and
it is public or declared in the same known package. -/
def overridable (env : Environment) (found : MethodDecl) (overrider : TypeId) : Bool :=
  !found.flags.intersects (.privateFlag ∪ .staticFlag) &&
    (found.flags.contains .publicFlag ||
      (match env.package found.declaringType, env.package overrider with
        | some own, some other => own == other
        | _, _ => false))

/-- A candidate, if it is a method that may be overridden from a type. -/
def accept (env : Environment) (overrider : TypeId) (candidate : Option TypeId) : Option TypeId :=
  candidate.filter fun id =>
    match env.node id with
    | some (.methodDecl found) => env.overridable found overrider
    | _ => false

/-- The method that a method overrides.  Each supertype is searched on its own, the superclass
first, and only the first method found is considered. -/
def overriddenMethod (env : Environment) (limits : Limits) (method : TypeId) :
    Search (Option TypeId) := fun guard =>
  match env.node method with
  | none => (.error (.danglingType method), guard)
  | some (.methodDecl decl) =>
    let candidates := LazyList.join (env.toGraph.candidates decl.name decl.parameterTypes)
      (env.supertypes decl.declaringType)
    match Goal.firstHolding (env.toGraph.ask limits) candidates guard with
    | (.ok candidate, after) => (.ok (env.accept decl.declaringType candidate), after)
    | (.error cause, after) => (.error cause, after)
  | some _ => (.ok none, guard)

end Environment
end JavaTypes
