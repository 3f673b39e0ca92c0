import JavaTypes.Graph
import JavaTypes.LazyList
import JavaTypes.Mode

/-!
# Questions and goals

A question asks whether two types stand in one of two relations.  Unless it is settled at once it
reduces to a goal: a combination of further questions by conjunction and disjunction, tried from
left to right.
-/

namespace JavaTypes

/-- The relations between types. -/
inductive Relation where
  /-- The types are the same. -/
  | ofType
  /-- A value of the source type may be stored in a variable of the target type. -/
  | assignableTo
  deriving DecidableEq, Repr

namespace Relation

/-- Name of a relation in the record of a search. -/
def label : Relation → String
  | ofType => "OfType"
  | assignableTo => "AssignableTo"

end Relation

/-- Whether a source type stands in a relation to a target type. -/
structure Question where
  relation : Relation
  target : TypeId
  source : TypeId
  mode : Mode
  deriving DecidableEq, Repr

/-- Why a question has no answer. -/
inductive Indeterminate where
  /-- A reference leads nowhere. -/
  | danglingType (id : TypeId)
  /-- A parameterized type or an annotation has no class. -/
  | notFullyQualified (id : TypeId)
  /-- Too many comparisons were open at once. -/
  | depthExceeded (limit : UInt32)
  /-- Too many comparisons were made. -/
  | iterationsExceeded (limit : UInt32)
  deriving DecidableEq, Repr

namespace Indeterminate

/-- The reason in words. -/
def message : Indeterminate → String
  | danglingType id => "type " ++ id.describe ++ " is not defined in the environment"
  | notFullyQualified id => "type " ++ id.describe ++ " has no fully qualified name"
  | depthExceeded limit => "recursion depth limit of " ++ toString limit.toNat ++ " exceeded"
  | iterationsExceeded limit => "iteration budget of " ++ toString limit.toNat ++ " exhausted"

end Indeterminate

/-- What remains to be shown. -/
inductive Goal where
  | decided (answer : Bool)
  /-- The answer depends on something that the graph lacks. -/
  | stuck (cause : Indeterminate)
  | compare (question : Question)
  /-- The second goal matters only if the first holds. -/
  | both (first second : Goal)
  /-- The second goal matters only if the first fails, and is not looked for before. -/
  | either (first : Goal) (second : Unit → Goal)

namespace Goal

/-- The goal that every goal of a list holds. -/
def all (goals : List Goal) : Goal := goals.foldr both (decided true)

/-- The goal that some goal of a list holds. -/
def any : LazyList Goal → Goal
  | .nil => decided false
  | .cons first rest => either first fun _ => any (rest ())

/-- The goal that the types of two lists stand in a relation, position by position. -/
def pairwise (relation : TypeId → TypeId → Goal) (targets sources : List TypeId) : Goal :=
  if targets.length = sources.length then all (List.zipWith relation targets sources)
  else decided false

/-- The goal that two types are the same. -/
def sameType (mode : Mode) (target source : TypeId) : Goal :=
  compare ⟨.ofType, target, source, mode⟩

/-- The goal that a source type may be assigned to a target type. -/
def assignable (mode : Mode) (target source : TypeId) : Goal :=
  compare ⟨.assignableTo, target, source, mode⟩

/-- Whether a goal holds when questions are answered as a relation says; a goal that is stuck does
not hold. -/
def Holds (answer : Question → Prop) : Goal → Prop
  | decided b => b = true
  | stuck _ => False
  | compare question => answer question
  | both first second => first.Holds answer ∧ second.Holds answer
  | either first second => first.Holds answer ∨ (second ()).Holds answer

theorem Holds.mono {answer larger : Question → Prop}
    (le : ∀ question, answer question → larger question) {goal : Goal}
    (h : goal.Holds answer) : goal.Holds larger := by
  induction goal with
  | decided b => exact h
  | stuck cause => exact h
  | compare question => exact le question h
  | both first second ihFirst ihSecond => exact ⟨ihFirst h.1, ihSecond h.2⟩
  | either first second ihFirst ihSecond => exact h.imp ihFirst (ihSecond ())

theorem holds_all (answer : Question → Prop) (goals : List Goal) :
    (all goals).Holds answer ↔ ∀ goal ∈ goals, goal.Holds answer := by
  induction goals with
  | nil => simp [all, Holds]
  | cons goal goals ih =>
    simp only [all, List.foldr_cons, Holds, List.forall_mem_cons]
    rw [← ih, all]

theorem holds_any (answer : Question → Prop) (goals : LazyList Goal) :
    (any goals).Holds answer ↔ ∃ goal ∈ goals.toList, goal.Holds answer := by
  induction goals with
  | nil => simp [any, Holds, LazyList.toList]
  | cons first rest ih => simp [any, Holds, LazyList.toList, ih]

end Goal

namespace Graph

/-- Continues with the node behind an identity, or is stuck without one. -/
def withNode (graph : Graph) (id : TypeId) (next : Node → Goal) : Goal :=
  match graph.node id with
  | some node => next node
  | none => .stuck (.danglingType id)

/-- Continues with the name of a nominal type, or is stuck without one. -/
def withName (graph : Graph) (id : TypeId) (next : String → Goal) : Goal :=
  match graph.qualifiedName id with
  | some name => next name
  | none => .stuck (.notFullyQualified id)

end Graph
end JavaTypes
