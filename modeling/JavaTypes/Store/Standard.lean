import JavaTypes.Store

/-!
# The standard classes

A store that starts with the classes that boxing, strings and the common collections need.
-/

namespace JavaTypes

/-- A computation that builds a store. -/
abbrev Construction := StateM Store

namespace Construction

/-- What a construction makes of a store. -/
def build {α : Type} (construction : Construction α) (store : Store) : Store :=
  (construction.run store).2

/-- Adds something to the store. -/
def make (addition : Store → TypeId × Store) : Construction TypeId := fun store => addition store

/-- Reserves a class by name, or finds it. -/
def intern (name : String) : Construction TypeId := make fun store => store.internClass name

/-- Defines a class under the identity that its name stands for. -/
def declare (decl : ClassDecl) : Construction TypeId := fun store =>
  let (id, reserved) := store.internClass decl.name
  match reserved.defineClass id decl with
  | .ok defined => (id, defined)
  | .error _ => (id, reserved)

/-- Declares a public interface. -/
def interface (name : String) (interfaces typeParameters : List TypeId) : Construction TypeId :=
  declare
    { name
      kind := .interface
      flags := .publicFlag ∪ .interfaceFlag ∪ .abstractFlag
      interfaces
      typeParameters }

/-- Adds a method to a class. -/
def method (owner : TypeId) (name : String) (returnType : TypeId) (parameters : List TypeId)
    (flags : Flags) : Construction Unit := do
  let plain : MethodDecl := { name, declaringType := owner, returnType, flags }
  discard (make fun store => store.addMethod (plain.withParameters parameters))

/-- Adds an invariant type parameter without bounds. -/
def parameter (name : String) : Construction TypeId :=
  make fun store => store.addTypeVariable { name }

/-- Adds a generic class applied to type arguments. -/
def apply (base : TypeId) (arguments : List TypeId) : Construction TypeId :=
  make fun store => store.addParameterized base arguments

/-- Declares the wrapper class of a primitive, which is comparable to itself. -/
def wrapper (comparable supertype : TypeId) (interfaces : List TypeId) (name : String) :
    Construction Unit := do
  let id ← intern name
  let comparableToItself ← apply comparable [id]
  discard (declare
    { name
      flags := .publicFlag ∪ .finalFlag
      supertype := some supertype
      interfaces := interfaces ++ [comparableToItself] })

/-- The root of the hierarchy, strings, numbers and the wrapper classes. -/
def languageClasses (object serializable : TypeId) : Construction Unit := do
  let int := Store.primitive .int
  let string ← intern ClassName.string
  let comparedTo ← parameter "T"
  let comparable ← interface "java.lang.Comparable" [] [comparedTo]
  method comparable "compareTo" int [comparedTo] (.publicFlag ∪ .abstractFlag)
  let charSequence ← interface "java.lang.CharSequence" [] []
  method charSequence "length" int [] (.publicFlag ∪ .abstractFlag)
  let number ← declare
    { name := "java.lang.Number"
      flags := .publicFlag ∪ .abstractFlag
      supertype := some object
      interfaces := [serializable] }
  method number "intValue" int [] (.publicFlag ∪ .abstractFlag)
  let comparableToString ← apply comparable [string]
  discard (declare
    { name := ClassName.string
      flags := .publicFlag ∪ .finalFlag
      supertype := some object
      interfaces := [serializable, comparableToString, charSequence] })
  method string "length" int [] .publicFlag
  method string "toString" string [] .publicFlag
  for name in ["java.lang.Byte", "java.lang.Short", "java.lang.Integer", "java.lang.Long",
      "java.lang.Float", "java.lang.Double"] do
    wrapper comparable number [] name
  for name in ["java.lang.Character", "java.lang.Boolean"] do
    wrapper comparable object [serializable] name
  discard (declare
    { name := "java.lang.Void"
      flags := .publicFlag ∪ .finalFlag
      supertype := some object })

/-- The collection interfaces and the classes that implement lists. -/
def collections (object serializable cloneable : TypeId) : Construction Unit := do
  let boolean := Store.primitive .boolean
  let int := Store.primitive .int
  let string ← intern ClassName.string
  let iterated ← parameter "T"
  let iterable ← interface "java.lang.Iterable" [] [iterated]
  let collected ← parameter "E"
  let iterableOfCollected ← apply iterable [collected]
  let collection ← interface "java.util.Collection" [iterableOfCollected] [collected]
  method collection "add" boolean [collected] (.publicFlag ∪ .abstractFlag)
  method collection "size" int [] (.publicFlag ∪ .abstractFlag)
  let listed ← parameter "E"
  let collectionOfListed ← apply collection [listed]
  let list ← interface "java.util.List" [collectionOfListed] [listed]
  method list "get" listed [int] (.publicFlag ∪ .abstractFlag)
  let held ← parameter "E"
  let collectionOfHeld ← apply collection [held]
  let abstractCollection ← declare
    { name := "java.util.AbstractCollection"
      flags := .publicFlag ∪ .abstractFlag
      supertype := some object
      interfaces := [collectionOfHeld]
      typeParameters := [held] }
  method abstractCollection "toString" string [] .publicFlag
  let ordered ← parameter "E"
  let abstractCollectionOfOrdered ← apply abstractCollection [ordered]
  let listOfOrdered ← apply list [ordered]
  let abstractList ← declare
    { name := "java.util.AbstractList"
      flags := .publicFlag ∪ .abstractFlag
      supertype := some abstractCollectionOfOrdered
      interfaces := [listOfOrdered]
      typeParameters := [ordered] }
  let stored ← parameter "E"
  let abstractListOfStored ← apply abstractList [stored]
  let listOfStored ← apply list [stored]
  let arrayList ← declare
    { name := "java.util.ArrayList"
      flags := .publicFlag
      supertype := some abstractListOfStored
      interfaces := [listOfStored, cloneable, serializable]
      typeParameters := [stored] }
  method arrayList "add" boolean [stored] .publicFlag
  method arrayList "get" stored [int] .publicFlag
  method arrayList "size" int [] .publicFlag
  let compared ← parameter "T"
  let comparator ← interface "java.util.Comparator" [] [compared]
  method comparator "compare" int [compared, compared] (.publicFlag ∪ .abstractFlag)

/-- The classes of things that are thrown. -/
def throwables (object serializable : TypeId) : Construction Unit := do
  let string ← intern ClassName.string
  let throwable ← declare
    { name := "java.lang.Throwable"
      flags := .publicFlag
      supertype := some object
      interfaces := [serializable] }
  method throwable "getMessage" string [] .publicFlag
  let exception ← declare
    { name := "java.lang.Exception", flags := .publicFlag, supertype := some throwable }
  discard (declare
    { name := "java.lang.RuntimeException", flags := .publicFlag, supertype := some exception })

/-- The standard classes, the root of the hierarchy first. -/
def standard : Construction Unit := do
  let string ← intern ClassName.string
  let object ← declare { name := ClassName.object, flags := .publicFlag }
  method object "toString" string [] .publicFlag
  method object "equals" (Store.primitive .boolean) [object] .publicFlag
  method object "hashCode" (Store.primitive .int) [] (.publicFlag ∪ .nativeFlag)
  method object "clone" object [] (.protectedFlag ∪ .nativeFlag)
  let serializable ← interface "java.io.Serializable" [] []
  let cloneable ← interface "java.lang.Cloneable" [] []
  languageClasses object serializable
  collections object serializable cloneable
  throwables object serializable

end Construction

namespace Store

/-- A store of the shared nodes and the standard classes. -/
def standard : Store := Construction.standard.build empty

end Store
end JavaTypes
