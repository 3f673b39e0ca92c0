import JavaTypes.Store

/-!
# Views of a type graph

Questions about types are asked of a read-only view: the nodes, an index of class names and the
identities of the shared types.  Everything else that a question needs (the class behind a type,
its superclass, its package) follows from those.
-/

namespace JavaTypes

/-- A read-only view of a type graph. -/
structure Graph where
  /-- A bound on the identities in use. -/
  size : Nat
  /-- The node behind an identity, unless the identity is dangling or only reserved. -/
  node : TypeId → Option Node
  node_eq_none : ∀ id : TypeId, size ≤ id.raw → node id = none
  /-- The class registered for a name in either spelling. -/
  classId : String → Option TypeId
  /-- The unresolved type. -/
  unknown : TypeId
  /-- The shared node of a primitive. -/
  primitive : Primitive → TypeId

namespace Graph

/-- The root of the class hierarchy, if the graph knows it. -/
def object (graph : Graph) : Option TypeId := graph.classId ClassName.object

/-- The class that values of a primitive box to, if the graph knows it. -/
def boxed (graph : Graph) (kind : Primitive) : Option TypeId :=
  kind.boxedName?.bind graph.classId

/-- The class in a slot. -/
def classDecl? (graph : Graph) (id : TypeId) : Option ClassDecl :=
  match graph.node id with
  | some (.classDecl decl) => some decl
  | _ => none

theorem classDecl?_eq_some {graph : Graph} {id : TypeId} {decl : ClassDecl}
    (node_eq : graph.node id = some (.classDecl decl)) : graph.classDecl? id = some decl := by
  rw [classDecl?, node_eq]

theorem node_eq_of_classDecl? {graph : Graph} {id : TypeId} {decl : ClassDecl}
    (found : graph.classDecl? id = some decl) : graph.node id = some (.classDecl decl) := by
  rw [classDecl?] at found
  split at found
  · next own node_eq => rw [node_eq, Option.some.inj found]
  · cases found

/-- The class declaration behind a class, a parameterized type or an annotation. -/
def classBehind (graph : Graph) (id : TypeId) : Option ClassDecl :=
  match graph.node id with
  | some (.classDecl decl) => some decl
  | some (.parameterized base _) => graph.classDecl? base
  | some (.annotationUse type _) => graph.classDecl? type
  | _ => none

/-- The name of a nominal type, as it was declared. -/
def qualifiedName (graph : Graph) (id : TypeId) : Option String :=
  (graph.classBehind id).map (·.name)

/-- The superclass of a declaration: the declared one, or the root of the hierarchy for classes,
enumerations and records other than the root itself. -/
def superclass (graph : Graph) (decl : ClassDecl) : Option TypeId :=
  match decl.supertype, decl.kind with
  | some id, _ => some id
  | none, .interface | none, .annotationType => none
  | none, .plain | none, .enumeration | none, .record =>
    if decl.name == ClassName.object then none else graph.object

/-- The superclass of a nominal type. -/
def supertype (graph : Graph) (id : TypeId) : Option TypeId :=
  (graph.classBehind id).bind graph.superclass

/-- The interfaces of a nominal type. -/
def interfaces (graph : Graph) (id : TypeId) : List TypeId :=
  ((graph.classBehind id).map (·.interfaces)).getD []

/-- The superclass and the interfaces of a nominal type, in the order in which they are searched. -/
def supertypes (graph : Graph) (id : TypeId) : List TypeId :=
  (graph.supertype id).toList ++ graph.interfaces id

/-- The methods that a nominal type declares. -/
def methods (graph : Graph) (id : TypeId) : List TypeId :=
  ((graph.classBehind id).map (·.methods)).getD []

/-- The type arguments of a parameterized type, or the parameters that another nominal type
declares. -/
def typeParameters (graph : Graph) (id : TypeId) : List TypeId :=
  match graph.node id with
  | some (.parameterized _ arguments) => arguments
  | _ => ((graph.classBehind id).map (·.typeParameters)).getD []

/-- The modifiers of a method, a variable or a nominal type. -/
def flags (graph : Graph) (id : TypeId) : Flags :=
  match graph.node id with
  | some (.methodDecl decl) => decl.flags
  | some (.variableDecl decl) => decl.flags
  | _ => ((graph.classBehind id).map (·.flags)).getD .empty

/-- How many owners are followed to find the outermost class. -/
def maxNesting : Nat := 64

/-- The class reached by following at most `steps` owners. -/
def outermost (graph : Graph) : Nat → ClassDecl → ClassDecl
  | 0, decl => decl
  | steps + 1, decl =>
    match decl.owner.bind graph.classBehind with
    | some outer => outermost graph steps outer
    | none => decl

/-- The package of a nominal type, which is that of its outermost class. -/
def ownerPackage (graph : Graph) (id : TypeId) : Option String :=
  (graph.classBehind id).map fun decl =>
    ClassName.package (graph.outermost maxNesting decl).name

end Graph

/-- A graph with a notion of package, by default the package of the outermost class. -/
structure Environment extends Graph where
  /-- The package of a type, where it is known. -/
  package : TypeId → Option String := toGraph.ownerPackage

namespace Environment

/-- The same graph with every package unknown. -/
def withoutPackages (env : Environment) : Environment := { env with package := fun _ => none }

end Environment

namespace Store

theorem node?_eq_none (store : Store) (id : TypeId) (h : store.size ≤ id.raw) :
    store.node? id = none := by
  simp [node?, size] at *
  simp [Array.getElem?_eq_none h]

/-- The view that a store gives of its nodes. -/
def graph (store : Store) : Graph where
  size := store.size
  node := store.node?
  node_eq_none := store.node?_eq_none
  classId := store.lookupClass
  unknown := Store.unknown
  primitive := Store.primitive

/-- The view that a store gives, with the packages of its classes. -/
def environment (store : Store) : Environment := { store.graph with }

end Store
end JavaTypes
