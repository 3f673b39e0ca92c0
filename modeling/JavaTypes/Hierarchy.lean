import JavaTypes.Graph
import JavaTypes.LazyList
import Std.Data.TreeSet

/-!
# Walks through a graph

A walk starts at one node and follows references depth first.  A node that branches is visited
once; a leaf (a node where the walk ends, or a reference that leads nowhere) is visited each time
it is reached.  Walks differ in the references they follow, and go on only as long as someone asks
for what comes next.
-/

namespace JavaTypes

/-- The identities of branching nodes that a walk has visited. -/
abbrev Entered := Std.TreeSet TypeId

namespace Graph

/-- Visits the leaves that are pending, up to the first branching node that has not been entered;
from there `descend` goes on with the node, its references and what is pending after it. -/
def scan (branches : TypeId → Option (List TypeId)) (entered : Entered)
    (descend : TypeId → List TypeId → List TypeId → LazyList TypeId) :
    List TypeId → LazyList TypeId
  | [] => .nil
  | id :: pending =>
    match branches id with
    | none => .cons id fun _ => scan branches entered descend pending
    | some next =>
      if entered.contains id then scan branches entered descend pending
      else descend id next pending

/-- Walks on through what is pending.  `branches` gives the references to follow, and `none` at a
leaf; the retained fuel bounds the number of branching nodes. -/
def walkFrom (branches : TypeId → Option (List TypeId)) :
    Nat → Entered → List TypeId → LazyList TypeId
  | 0, _, _ => .nil
  | fuel + 1, entered, pending =>
    scan branches entered
      (fun id next others =>
        .cons id fun _ => walkFrom branches fuel (entered.insert id) (next ++ others))
      pending

/-- Everything that a walk visits, in order.  Branching nodes must be defined, so that there are
at most as many as the identities in use. -/
def walk (graph : Graph) (branches : TypeId → Option (List TypeId)) (start : TypeId) :
    LazyList TypeId :=
  walkFrom branches (graph.size + 1) ∅ [start]

/-- References from a type towards the types that it extends or stands for: superclass and
interfaces of nominal types, bounds of type variables and intersections, the types of variables and
the results of methods.  Primitives are leaves. -/
def ancestors (graph : Graph) (id : TypeId) : Option (List TypeId) :=
  match graph.node id with
  | none | some (.primitive _) => none
  | some (.classDecl _) | some (.parameterized _ _) | some (.annotationUse _ _) =>
    some (graph.supertypes id)
  | some (.typeVariable decl) => some decl.bounds
  | some (.intersection bounds) => some bounds
  | some (.variableDecl decl) => some [decl.type]
  | some (.methodDecl decl) => some [decl.returnType]
  | some .unknown | some (.array _) | some (.multiCatch _) => some []

/-- References from a type to its superclass and interfaces, from whatever kind of node. -/
def declaredSupertypes (graph : Graph) (id : TypeId) : Option (List TypeId) :=
  (graph.node id).map fun _ => graph.supertypes id

/-- References from a nominal type to its superclass and interfaces; other nodes are leaves. -/
def nominalSupertypes (graph : Graph) (id : TypeId) : Option (List TypeId) :=
  match graph.node id with
  | some node => if node.isNominal then some (graph.supertypes id) else none
  | none => none

/-- The reference from a variable to its type, from a method to its result and from an array to its
element; other nodes are leaves. -/
def underlying (graph : Graph) (id : TypeId) : Option (List TypeId) :=
  match graph.node id with
  | some (.variableDecl decl) => some [decl.type]
  | some (.methodDecl decl) => some [decl.returnType]
  | some (.array element) => some [element]
  | _ => none

/-- References from a type to the types that it is built from. -/
def parts (graph : Graph) (id : TypeId) : Option (List TypeId) :=
  (graph.node id).map fun node =>
    match node with
    | .parameterized base arguments => base :: arguments
    | .array element => [element]
    | .typeVariable decl => decl.bounds
    | .variableDecl decl => decl.type :: decl.owner.toList
    | .multiCatch alternatives => alternatives
    | .methodDecl decl => decl.returnType :: decl.declaringType :: decl.parameterTypes
    | .primitive _ | .unknown | .classDecl _ | .annotationUse _ _ | .intersection _ => []

/-- Whether a node may occur in a well-formed type: it is known, and a variable has an owner. -/
def isSound (graph : Graph) (id : TypeId) : Bool :=
  match graph.node id with
  | none | some .unknown => false
  | some (.variableDecl decl) => decl.owner.isSome
  | some _ => true

/-- Whether a type and everything that it is built from is sound.  A type that contains itself is
well formed if every node on the way round is. -/
def isWellFormed (graph : Graph) (id : TypeId) : Bool :=
  (graph.walk graph.parts id).all graph.isSound

end Graph
end JavaTypes
