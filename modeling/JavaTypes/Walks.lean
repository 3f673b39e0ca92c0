import JavaTypes.Goal
import JavaTypes.Hierarchy

/-!
# Asking along a walk

Some questions are put to a test that the caller brings: a property of types, or of names.  The
test is asked along a walk until it accepts something, and may depend on what it was asked before.
-/

namespace JavaTypes

/-- What came of asking along a walk. -/
structure Inquiry (α : Type) where
  /-- Everything the test was asked, in order. -/
  asked : List α
  /-- Whether the test accepted something, unless the walk broke off first. -/
  outcome : Except Indeterminate Bool

namespace Inquiry

/-- Asks a test about a sequence until it accepts or the sequence breaks off.  The test is given
what it was asked before, the latest first. -/
def along {α : Type} (accepts : List α → α → Bool) (before : List α) :
    LazyList (Except Indeterminate α) → Inquiry α
  | .nil => ⟨before.reverse, .ok false⟩
  | .cons (.error cause) _ => ⟨before.reverse, .error cause⟩
  | .cons (.ok item) rest =>
    if accepts before item then ⟨(item :: before).reverse, .ok true⟩
    else along accepts (item :: before) (rest ())

end Inquiry

namespace Graph

/-- What a test of types is asked at a visited node: primitives and nominal types. -/
def typeAsked (graph : Graph) (id : TypeId) : List (Except Indeterminate TypeId) :=
  match graph.node id with
  | none => [.error (.danglingType id)]
  | some (.primitive _) => [.ok id]
  | some node => if node.isNominal then [.ok id] else []

/-- Asks a test about the types that a source extends or stands for. -/
def askTypes (graph : Graph) (accepts : List TypeId → TypeId → Bool) (source : TypeId) :
    Inquiry TypeId :=
  .along accepts [] ((graph.walk graph.ancestors source).flatMap graph.typeAsked)

/-- The name of a type for a pattern: the keyword of a primitive, the name of a nominal type. -/
def patternName? (graph : Graph) (id : TypeId) : Option String :=
  match graph.node id with
  | some (.primitive kind) => some kind.keyword
  | some node => if node.isNominal then graph.qualifiedName id else none
  | none => none

/-- Asks a test of names about the types that a source extends or stands for. -/
def askPattern (graph : Graph) (matching : String → Bool) (source : TypeId) : Inquiry TypeId :=
  graph.askTypes (fun _ id => (graph.patternName? id).any matching) source

/-- What a test of names is asked at a visited node: the name of a nominal type and, where
supertypes count, the root of the hierarchy. -/
def nameAsked (graph : Graph) (supertypesCount : Bool) (id : TypeId) :
    List (Except Indeterminate String) :=
  match graph.node id with
  | none => [.error (.danglingType id)]
  | some node =>
    if node.isNominal then
      match graph.qualifiedName id with
      | none => [.error (.notFullyQualified id)]
      | some name =>
        if supertypesCount && name != ClassName.object then [.ok name, .ok ClassName.object]
        else [.ok name]
    else []

/-- Asks a test about the name of a nominal type and, where supertypes count, about the names of
the types that it extends. -/
def askNames (graph : Graph) (supertypesCount : Bool) (accepts : String → Bool) (id : TypeId) :
    Inquiry String :=
  let visited :=
    if supertypesCount then graph.walk graph.nominalSupertypes id else LazyList.ofList [id]
  .along (fun _ => accepts) [] (visited.flatMap (graph.nameAsked supertypesCount))

end Graph
end JavaTypes
