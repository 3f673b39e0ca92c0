import JavaTypes.Node
import Std.Data.ExtTreeMap

/-!
# The store of nodes

A store owns every node of a graph.  The unresolved type and the primitives hold the first slots
and are shared; every other node gets the next free slot.  Classes are indexed by the source
spelling of their names, the first registration of a name winning.  A slot may be reserved before
its node is known, which is how a graph refers back to itself.
-/

namespace JavaTypes

/-- What a snapshot lacks to be a store. -/
inductive SnapshotFault where
  | missingShared
  | unknownMisplaced
  | primitivesMisplaced
  deriving DecidableEq, Repr

namespace SnapshotFault

/-- The fault in words. -/
def message : SnapshotFault → String
  | missingShared => "missing interned nodes"
  | unknownMisplaced => "slot 0 must be Unknown"
  | primitivesMisplaced => "primitive slots out of order"

end SnapshotFault

/-- Why a store refuses an operation. -/
inductive StoreError where
  /-- The identity lies outside the store. -/
  | unknownId (id : TypeId)
  /-- The slot already holds a node. -/
  | alreadyDefined (id : TypeId)
  /-- The slot was reserved for a class of another name. -/
  | classNameMismatch (id : TypeId) (expected found : String)
  /-- The nodes of a snapshot do not start with the shared ones. -/
  | corruptSnapshot (fault : SnapshotFault)
  deriving DecidableEq, Repr

namespace StoreError

/-- The error in words. -/
def message : StoreError → String
  | unknownId id => "type id " ++ id.describe ++ " does not belong to this store"
  | alreadyDefined id => "type id " ++ id.describe ++ " is already defined"
  | classNameMismatch id expected found =>
    "type id " ++ id.describe ++ " was reserved for \x60" ++ expected ++
      "\x60 but defined as a " ++ found
  | corruptSnapshot fault => "corrupt type store snapshot: " ++ fault.message

end StoreError

/-- Identities by the source spelling of a class name. -/
structure NameIndex where
  /-- The identity of every registered name. -/
  ids : Std.ExtTreeMap String TypeId
  deriving DecidableEq

namespace NameIndex

/-- No registered name. -/
def empty : NameIndex := ⟨∅⟩

/-- The identity registered for a normalized name. -/
def find? (index : NameIndex) (name : String) : Option TypeId := index.ids[name]?

/-- Registers a normalized name unless it is taken. -/
def register (index : NameIndex) (name : String) (id : TypeId) : NameIndex :=
  ⟨index.ids.insertIfNew name id⟩

theorem find?_empty (name : String) : empty.find? name = none := by simp [find?, empty]

theorem find?_register_self (index : NameIndex) (name : String) (id : TypeId) :
    (index.register name id).find? name = some ((index.find? name).getD id) := by
  rw [find?, find?, register, Std.ExtTreeMap.getElem?_insertIfNew]
  by_cases taken : name ∈ index.ids <;> simp [taken]

theorem find?_register_of_ne (index : NameIndex) {name other : String} (id : TypeId)
    (h : other ≠ name) : (index.register name id).find? other = index.find? other := by
  simp [find?, register, Std.ExtTreeMap.getElem?_insertIfNew, h.symm]

end NameIndex

/-- The nodes of a graph with the index of its classes. -/
structure Store where
  /-- One slot per identity; a slot without a node is reserved. -/
  nodes : Array (Option Node)
  /-- Classes by name. -/
  index : NameIndex
  /-- The normalized name of the class for which a slot is kept, where there is one. -/
  reservations : Std.ExtTreeMap TypeId String
  deriving DecidableEq

namespace Store

/-- Slot of the unresolved type. -/
def unknown : TypeId := ⟨0⟩

/-- Slot of a primitive. -/
def primitive (kind : Primitive) : TypeId := ⟨1 + kind.index⟩

/-- The shared nodes that every store starts with. -/
def sharedNodes : List (Option Node) :=
  some .unknown :: Primitive.all.map fun kind => some (.primitive kind)

/-- Number of shared slots. -/
def sharedSize : Nat := 13

/-- A store that holds the shared nodes alone. -/
def empty : Store := ⟨sharedNodes.toArray, .empty, ∅⟩

/-- Number of slots. -/
def size (store : Store) : Nat := store.nodes.size

/-- Whether a store holds the shared nodes alone. -/
def isEmpty (store : Store) : Bool := store.size == sharedSize

/-- The node in a slot. -/
def node? (store : Store) (id : TypeId) : Option Node := (store.nodes[id.raw]?).join

/-- The identity registered for a class name in either spelling. -/
def lookupClass (store : Store) (name : String) : Option TypeId :=
  store.index.find? (ClassName.normalize name)

/-- The identity that the next node gets. -/
def nextId (store : Store) : TypeId := ⟨store.size⟩

/-- Enters a class into the index unless its name is taken; other nodes have no name to enter. -/
def registered (index : NameIndex) (id : TypeId) : Node → NameIndex
  | .classDecl decl => index.register (ClassName.normalize decl.name) id
  | _ => index

/-- Appends a node that is not shared. -/
def push (store : Store) (node : Node) : TypeId × Store :=
  (store.nextId,
    { store with
      nodes := store.nodes.push (some node)
      index := registered store.index store.nextId node })

/-- Adds a node; the unresolved type and the primitives resolve to their shared slots. -/
def add (store : Store) (node : Node) : TypeId × Store :=
  match node with
  | .unknown => (unknown, store)
  | .primitive kind => (primitive kind, store)
  | _ => store.push node

/-- Appends a slot whose node is defined later. -/
def reserve (store : Store) : TypeId × Store :=
  (store.nextId, { store with nodes := store.nodes.push none })

/-- What a node is called when it takes the place of a reserved class. -/
def foundName : Node → String
  | .classDecl decl => decl.name
  | node => node.kindName

/-- Whether a node may take a slot that was reserved for a class of the given normalized name. -/
def fulfills (expected : String) : Node → Bool
  | .classDecl decl => ClassName.normalize decl.name == expected
  | _ => false

/-- Why a node may not be put into a slot, if it may not. -/
def defineError? (store : Store) (id : TypeId) (node : Node) : Option StoreError :=
  match store.nodes[id.raw]? with
  | none => some (.unknownId id)
  | some (some _) => some (.alreadyDefined id)
  | some none =>
    match store.reservations[id]? with
    | none => none
    | some expected =>
      if fulfills expected node then none
      else some (.classNameMismatch id expected (foundName node))

/-- Puts a node into a reserved slot, unless it may not be put there.  There is a store in either
case. -/
def tryDefine (store : Store) (id : TypeId) (node : Node) : Except StoreError Unit × Store :=
  match store.defineError? id node with
  | some error => (.error error, store)
  | none =>
    (.ok (),
      { nodes := store.nodes.setIfInBounds id.raw (some node)
        index := registered store.index id node
        reservations := store.reservations.erase id })

/-- The store with a node in a reserved slot. -/
def define (store : Store) (id : TypeId) (node : Node) : Except StoreError Store :=
  match store.tryDefine id node with
  | (.ok (), defined) => .ok defined
  | (.error error, _) => .error error

theorem define_eq (store : Store) (id : TypeId) (node : Node) :
    store.define id node =
      match store.defineError? id node with
      | some error => .error error
      | none =>
        .ok
          { nodes := store.nodes.setIfInBounds id.raw (some node)
            index := registered store.index id node
            reservations := store.reservations.erase id } := by
  rw [define, tryDefine]
  cases store.defineError? id node <;> rfl

/-- The identity registered for a class name, which is reserved if the class is not yet known. -/
def internClass (store : Store) (name : String) : TypeId × Store :=
  match store.lookupClass name with
  | some id => (id, store)
  | none =>
    let key := ClassName.normalize name
    let (id, grown) := store.reserve
    (id,
      { grown with
        index := grown.index.register key id
        reservations := grown.reservations.insert id key })

/-- Adds a class. -/
def addClass (store : Store) (decl : ClassDecl) : TypeId × Store := store.add (.classDecl decl)

/-- Puts a class into a reserved slot. -/
def defineClass (store : Store) (id : TypeId) (decl : ClassDecl) : Except StoreError Store :=
  store.define id (.classDecl decl)

/-- Lists one more method of a class, if the slot holds a class. -/
def listMethod (store : Store) (owner method : TypeId) : Store :=
  match store.node? owner with
  | some (.classDecl decl) =>
    { store with
      nodes := store.nodes.setIfInBounds owner.raw
        (some (.classDecl { decl with methods := decl.methods ++ [method] })) }
  | _ => store

/-- Adds a method and lists it among the methods of its declaring type, if that is a class. -/
def addMethod (store : Store) (decl : MethodDecl) : TypeId × Store :=
  let (id, grown) := store.add (.methodDecl decl)
  (id, grown.listMethod decl.declaringType id)

/-- Adds a generic class applied to type arguments. -/
def addParameterized (store : Store) (base : TypeId) (arguments : List TypeId) : TypeId × Store :=
  store.add (.parameterized base arguments)

/-- Adds an array type. -/
def addArray (store : Store) (element : TypeId) : TypeId × Store := store.add (.array element)

/-- Adds a type variable. -/
def addTypeVariable (store : Store) (decl : TypeVariable) : TypeId × Store :=
  store.add (.typeVariable decl)

/-- Adds a wildcard with one bound: `? extends` when covariant, `? super` when contravariant. -/
def addWildcard (store : Store) (variance : Variance) (bound : TypeId) : TypeId × Store :=
  store.addTypeVariable { name := TypeVariable.wildcardName, variance, bounds := [bound] }

/-- Adds a wildcard without bounds. -/
def addUnboundedWildcard (store : Store) : TypeId × Store :=
  store.addTypeVariable { name := TypeVariable.wildcardName }

/-- Adds an intersection type. -/
def addIntersection (store : Store) (bounds : List TypeId) : TypeId × Store :=
  store.add (.intersection bounds)

/-- Adds a variable without modifiers. -/
def addVariable (store : Store) (name : String) (owner : Option TypeId) (type : TypeId) :
    TypeId × Store :=
  store.add (.variableDecl { name, owner, type })

/-- Enters the classes of a list of slots, of which the first has the given number. -/
def indexFrom (number : Nat) (index : NameIndex) : List (Option Node) → NameIndex
  | [] => index
  | slot :: slots =>
    indexFrom (number + 1) ((slot.map (registered index ⟨number⟩)).getD index) slots

/-- The store with the given slots, which must start with the shared nodes.  Names are indexed in
the order of the slots, and no slot is waiting for a class. -/
def ofSlots (slots : Array (Option Node)) : Except StoreError Store :=
  if slots.size < sharedSize then .error (.corruptSnapshot .missingShared)
  else if slots[0]? ≠ some (some .unknown) then .error (.corruptSnapshot .unknownMisplaced)
  else if slots.toList.take sharedSize ≠ sharedNodes then
    .error (.corruptSnapshot .primitivesMisplaced)
  else .ok ⟨slots, indexFrom sharedSize .empty (slots.toList.drop sharedSize), ∅⟩

theorem size_sharedNodes : sharedNodes.length = sharedSize := rfl

theorem size_add_le (store : Store) (node : Node) : store.size ≤ (store.add node).2.size := by
  unfold add
  split <;> simp [push, size]

end Store
end JavaTypes
