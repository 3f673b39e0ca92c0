import JavaTypes.Proofs.Sameness
import Mathlib.Data.Sum.Basic

/-!
# Matching of alike types

The rule for sameness distinguishes many pairs of nodes.  Only those of one form can be alike:
nominal types must be namesakes, and what is equal as a value is so already by its name.  A single
value in an annotation counts as the array that holds it alone.
-/

namespace JavaTypes
namespace Constant

theorem sameValue_comm (left right : Constant) : left.sameValue right = right.sameValue left := by
  cases left <;> cases right
  case float.float left right => exact Binary64.sameValue_comm left right
  all_goals exact Bool.beq_comm

theorem sameValues_iff {lefts rights : List Constant} :
    sameValues lefts rights = true ↔
      List.Forall₂ (fun left right => left.sameValue right = true) lefts rights := by
  induction lefts generalizing rights with
  | nil => cases rights <;> simp [sameValues]
  | cons left lefts ih => cases rights <;> simp [sameValues, ih]

end Constant

namespace ElementContent

/-- The values that an element is set to, a single value read as the array that holds it alone. -/
def listed : ElementContent → List Constant ⊕ List TypeId
  | constant value => .inl [value]
  | constants values => .inl values
  | reference id => .inr [id]
  | references ids => .inr ids

/-- Where a relation is symmetric, elements are set to the same by it exactly if their lists of
values agree position by position. -/
theorem alike_iff_listed {same : TypeId → TypeId → Prop}
    (symmetric : ∀ left right, same left right → same right left) {left right : ElementContent} :
    left.Alike same right ↔
      Sum.LiftRel (List.Forall₂ fun left right => left.sameValue right = true)
        (List.Forall₂ same) left.listed right.listed := by
  have flipped (first second : TypeId) : same first second ↔ same second first :=
    ⟨symmetric first second, symmetric second first⟩
  cases left <;> cases right
  case constants.constants => simp [Alike, listed, Constant.sameValues_iff]
  case references.references => simp [Alike, listed]
  case constant.constants single array =>
    simp [Alike, listed, List.forall₂_cons_left_iff, Constant.sameValue_comm single, and_comm]
  case reference.references single array =>
    simp [Alike, listed, List.forall₂_cons_left_iff, and_comm]
  case constants.constant array single =>
    simp [Alike, listed, List.forall₂_cons_right_iff, and_comm]
  case references.reference array single =>
    simp [Alike, listed, List.forall₂_cons_right_iff, flipped single, and_comm]
  all_goals simp [Alike, listed]

end ElementContent

namespace Node

/-- Nodes that are equal as values are equal, unless they are annotations, of which only the types
need be. -/
theorem sameValue_eq_true {left right : Node} (equal : left.sameValue right = true) :
    left = right ∨ ∃ type leftValues rightValues,
      left = .annotationUse type leftValues ∧ right = .annotationUse type rightValues := by
  cases left <;> cases right
  case annotationUse.annotationUse =>
    simp only [sameValue, Bool.and_eq_true, beq_iff_eq] at equal
    obtain ⟨rfl, -⟩ := equal
    exact Or.inr ⟨_, _, _, rfl, rfl⟩
  all_goals exact Or.inl (eq_of_beq equal)

end Node

namespace Graph

variable {graph : Graph} {same : TypeRelation} {mode : Mode} {target source : TypeId}
  {targetNode sourceNode : Node}

/-- Whether two types have names, which are the same but for their spelling. -/
def Namesakes (graph : Graph) (target source : TypeId) : Prop :=
  ∃ targetName ∈ graph.qualifiedName target, ∃ sourceName ∈ graph.qualifiedName source,
    ClassName.normalize targetName = ClassName.normalize sourceName

/-- The forms of two nodes that are built alike. -/
inductive Matched (graph : Graph) (same : TypeRelation) (mode : Mode) (target source : TypeId) :
    Node → Node → Prop where
  | primitive (kind : Primitive) :
      Matched graph same mode target source (.primitive kind) (.primitive kind)
  | unknown : Matched graph same mode target source .unknown .unknown
  | classDecl {left right : ClassDecl} (named : graph.Namesakes target source) :
      Matched graph same mode target source (.classDecl left) (.classDecl right)
  | parameterized {leftBase rightBase : TypeId} {lefts rights : List TypeId}
      (named : graph.Namesakes target source) (arguments : List.Forall₂ (same mode) lefts rights) :
      Matched graph same mode target source (.parameterized leftBase lefts)
        (.parameterized rightBase rights)
  | annotationUse {leftType rightType : TypeId} {lefts rights : List ElementValue}
      (named : graph.Namesakes target source) (type : same .bound leftType rightType)
      (values : List.Forall₂ (fun left right => same .bound left.element right.element ∧
        left.content.Alike (same .bound) right.content) lefts rights) :
      Matched graph same mode target source (.annotationUse leftType lefts)
        (.annotationUse rightType rights)
  | array {left right : TypeId} (element : same mode left right) :
      Matched graph same mode target source (.array left) (.array right)
  | typeVariable {left right : TypeVariable} (name : left.name = right.name)
      (variance : left.variance = right.variance)
      (bounds : List.Forall₂ (same mode) left.bounds right.bounds) :
      Matched graph same mode target source (.typeVariable left) (.typeVariable right)
  | intersection (bounds : List TypeId) :
      Matched graph same mode target source (.intersection bounds) (.intersection bounds)
  | variableDecl {left right : VariableDecl} (type : same mode left.type right.type)
      (owner : Option.Rel (same mode) left.owner right.owner) :
      Matched graph same mode target source (.variableDecl left) (.variableDecl right)
  | methodDecl {left right : MethodDecl} (name : left.name = right.name)
      (flags : left.flags = right.flags)
      (declaringType : same mode left.declaringType right.declaringType)
      (returnType : same mode left.returnType right.returnType)
      (parameters : List.Forall₂ (same mode) left.parameterTypes right.parameterTypes)
      (thrown : List.Forall₂ (same mode) left.thrownExceptions right.thrownExceptions) :
      Matched graph same mode target source (.methodDecl left) (.methodDecl right)
  | multiCatch (alternatives : List TypeId) :
      Matched graph same mode target source (.multiCatch alternatives) (.multiCatch alternatives)

theorem qualifiedName_eq_of_sameValue (target_eq : graph.node target = some targetNode)
    (source_eq : graph.node source = some sourceNode)
    (equal : targetNode.sameValue sourceNode = true) :
    graph.qualifiedName target = graph.qualifiedName source := by
  rcases Node.sameValue_eq_true equal with rfl | ⟨type, targetValues, sourceValues, rfl, rfl⟩
  · simp only [qualifiedName, classBehind, target_eq, source_eq]
  · simp only [qualifiedName, classBehind, target_eq, source_eq]

/-- Nominal types are alike only if they are namesakes: those that are equal as values have one
name. -/
theorem alikeNominal_iff (target_eq : graph.node target = some targetNode)
    (source_eq : graph.node source = some sourceNode) :
    (∃ targetName ∈ graph.qualifiedName target, ∃ sourceName ∈ graph.qualifiedName source,
      if ClassName.normalize targetName = ClassName.normalize sourceName then
        targetNode.AlikeNominal same mode sourceNode
      else targetNode.sameValue sourceNode = true) ↔
    graph.Namesakes target source ∧ targetNode.AlikeNominal same mode sourceNode := by
  constructor
  · rintro ⟨targetName, target_named, sourceName, source_named, alike⟩
    split at alike
    · next name_eq => exact ⟨⟨targetName, target_named, sourceName, source_named, name_eq⟩, alike⟩
    · next name_ne =>
        rw [qualifiedName_eq_of_sameValue target_eq source_eq alike] at target_named
        rw [Option.mem_unique target_named source_named] at name_ne
        exact absurd rfl name_ne
  · rintro ⟨⟨targetName, target_named, sourceName, source_named, name_eq⟩, alike⟩
    exact ⟨targetName, target_named, sourceName, source_named, (if_pos name_eq).mpr alike⟩

theorem Matched.alikeBy (target_eq : graph.node target = some targetNode)
    (source_eq : graph.node source = some sourceNode)
    (matched : graph.Matched same mode target source targetNode sourceNode) :
    graph.AlikeBy same mode target source targetNode sourceNode := by
  cases matched with
  | primitive kind => exact rfl
  | unknown => exact rfl
  | classDecl named => exact (alikeNominal_iff target_eq source_eq).mpr ⟨named, trivial⟩
  | parameterized named arguments =>
      exact (alikeNominal_iff target_eq source_eq).mpr ⟨named, arguments⟩
  | annotationUse named type values =>
      exact (alikeNominal_iff target_eq source_eq).mpr ⟨named, type, values⟩
  | array element => exact element
  | typeVariable name variance bounds => exact ⟨name, variance, bounds⟩
  | intersection bounds => exact beq_self_eq_true (Node.intersection bounds)
  | variableDecl type owner => exact ⟨type, owner⟩
  | methodDecl name flags declaringType returnType parameters thrown =>
      exact ⟨name, flags, declaringType, returnType, parameters, thrown⟩
  | multiCatch alternatives => exact beq_self_eq_true (Node.multiCatch alternatives)

theorem AlikeBy.matched (target_eq : graph.node target = some targetNode)
    (source_eq : graph.node source = some sourceNode)
    (alike : graph.AlikeBy same mode target source targetNode sourceNode) :
    graph.Matched same mode target source targetNode sourceNode := by
  have nominal := (@alikeNominal_iff graph same mode _ _ _ _ target_eq source_eq).mp
  cases targetNode <;> cases sourceNode
  case primitive.primitive left right =>
    obtain rfl : left = right := alike
    exact .primitive left
  case unknown.unknown => exact .unknown
  case classDecl.classDecl => exact .classDecl (nominal alike).1
  case parameterized.parameterized => exact .parameterized (nominal alike).1 (nominal alike).2
  case annotationUse.annotationUse =>
    exact .annotationUse (nominal alike).1 (nominal alike).2.1 (nominal alike).2.2
  case array.array => exact .array alike
  case typeVariable.typeVariable => exact .typeVariable alike.1 alike.2.1 alike.2.2
  case intersection.intersection left right =>
    obtain rfl : left = right := by simpa [AlikeBy, Node.isNominal, Node.sameValue] using alike
    exact .intersection left
  case variableDecl.variableDecl => exact .variableDecl alike.1 alike.2
  case methodDecl.methodDecl =>
    obtain ⟨name, flags, declaringType, returnType, parameters, thrown⟩ := alike
    exact .methodDecl name flags declaringType returnType parameters thrown
  case multiCatch.multiCatch left right =>
    obtain rfl : left = right := by simpa [AlikeBy, Node.isNominal, Node.sameValue] using alike
    exact .multiCatch left
  -- Nominal types of different forms are compared as values even if they are namesakes.
  case classDecl.parameterized | classDecl.annotationUse | parameterized.classDecl |
      parameterized.annotationUse | annotationUse.classDecl | annotationUse.parameterized =>
    exact absurd (nominal alike).2 Bool.false_ne_true
  all_goals exact absurd alike (by simp [AlikeBy, Node.isNominal, Node.sameValue])

/-- Two nodes are built alike exactly if they have one form and their parts are compared so. -/
theorem alikeBy_iff_matched (target_eq : graph.node target = some targetNode)
    (source_eq : graph.node source = some sourceNode) :
    graph.AlikeBy same mode target source targetNode sourceNode ↔
      graph.Matched same mode target source targetNode sourceNode :=
  ⟨AlikeBy.matched target_eq source_eq, Matched.alikeBy target_eq source_eq⟩

end Graph
end JavaTypes
