import JavaTypes.Proofs.Truth
import JavaTypes.Store.Operation
import Mathlib.Data.List.Forall2

/-!
# Sameness of types

When two types are the same is told by one rule, which compares their parts by the relation that it
defines.  Types may contain themselves, so the relation meant is the greatest one that obeys the
rule.
-/

namespace JavaTypes

/-- A relation between types, the target first, for each treatment of type variables. -/
abbrev TypeRelation := Mode → TypeId → TypeId → Prop

namespace Relation

/-- The relation between types that holds where questions of one kind are answered with yes. -/
def among (relation : Relation) (answer : Question → Prop) : TypeRelation :=
  fun mode target source => answer { relation, target, source, mode }

/-- The questions that are answered with yes where two relations between types are given. -/
def answers (same assignable : TypeRelation) (question : Question) : Prop :=
  match question.relation with
  | ofType => same question.mode question.target question.source
  | assignableTo => assignable question.mode question.target question.source

theorem answers_mono {same assignable moreSame moreAssignable : TypeRelation}
    (same_le : same ≤ moreSame) (assignable_le : assignable ≤ moreAssignable)
    (question : Question) (answered : answers same assignable question) :
    answers moreSame moreAssignable question := by
  obtain ⟨relation, target, source, mode⟩ := question
  cases relation with
  | ofType => exact same_le mode target source answered
  | assignableTo => exact assignable_le mode target source answered

end Relation

namespace ElementContent

/-- Whether two annotation elements are set to the same, where a single value is the same as an
array that holds it alone. -/
def Alike (same : TypeId → TypeId → Prop) : ElementContent → ElementContent → Prop
  | constant left, constant right => left.sameValue right
  | reference left, reference right => same left right
  | constants left, constants right => Constant.sameValues left right
  | references left, references right => List.Forall₂ same left right
  | constant single, constants array | constants array, constant single =>
      ∃ only, array = [only] ∧ only.sameValue single
  | reference single, references array | references array, reference single =>
      ∃ only, array = [only] ∧ same single only
  | _, _ => False

end ElementContent

namespace Node

/-- Whether two nominal types of one name are the same. -/
def AlikeNominal (same : TypeRelation) (mode : Mode) : Node → Node → Prop
  | classDecl _, classDecl _ => True
  | parameterized _ targets, parameterized _ sources => List.Forall₂ (same mode) targets sources
  | annotationUse targetType targets, annotationUse sourceType sources =>
      same .bound targetType sourceType ∧
        List.Forall₂ (fun target source => same .bound target.element source.element ∧
          target.content.Alike (same .bound) source.content) targets sources
  | target, source => target.sameValue source

end Node

namespace Graph

/-- Whether two nodes are built alike, where their parts are compared by a given relation. -/
def AlikeBy (graph : Graph) (same : TypeRelation) (mode : Mode) (target source : TypeId) :
    Node → Node → Prop
  | .primitive left, .primitive right => left = right
  | .array left, .array right => same mode left right
  | .typeVariable left, .typeVariable right =>
      left.name = right.name ∧ left.variance = right.variance ∧
        List.Forall₂ (same mode) left.bounds right.bounds
  | .methodDecl left, .methodDecl right =>
      left.name = right.name ∧ left.flags = right.flags ∧
        same mode left.declaringType right.declaringType ∧
        same mode left.returnType right.returnType ∧
        List.Forall₂ (same mode) left.parameterTypes right.parameterTypes ∧
        List.Forall₂ (same mode) left.thrownExceptions right.thrownExceptions
  | .variableDecl left, .variableDecl right =>
      same mode left.type right.type ∧ Option.Rel (same mode) left.owner right.owner
  | left, right =>
      if left.isNominal ∧ right.isNominal then
        ∃ leftName ∈ graph.qualifiedName target, ∃ rightName ∈ graph.qualifiedName source,
          if ClassName.normalize leftName = ClassName.normalize rightName then
            left.AlikeNominal same mode right
          else left.sameValue right
      else left.sameValue right

/-- The rule for sameness of two types, where their parts are compared by a given relation. -/
def SameBy (graph : Graph) (same : TypeRelation) : TypeRelation := fun mode target source =>
  ∃ targetNode ∈ graph.node target, ∃ sourceNode ∈ graph.node source,
    targetNode ≠ .unknown ∧ sourceNode ≠ .unknown ∧
      (target = source ∨ mode.infers targetNode sourceNode ∨
        targetNode.isString ∧ sourceNode.isString ∨
        graph.AlikeBy same mode target source targetNode sourceNode)

end Graph

namespace Goal

variable {answer : Question → Prop}

theorem holds_zipWith {α β : Type} {relation : α → β → Goal} {targets : List α}
    {sources : List β} :
    (targets.length = sources.length ∧ (all (List.zipWith relation targets sources)).Holds answer) ↔
      List.Forall₂ (fun target source => (relation target source).Holds answer) targets sources := by
  induction targets generalizing sources with
  | nil => cases sources <;> simp [all, Holds]
  | cons target targets ih =>
      cases sources with
      | nil => simp
      | cons source sources =>
          rw [List.forall₂_cons, ← ih, List.zipWith_cons_cons, List.length_cons, List.length_cons,
            Nat.add_right_cancel_iff, ← and_left_comm]
          rfl

theorem holds_pairwise {relation : TypeId → TypeId → Goal} {targets sources : List TypeId} :
    (pairwise relation targets sources).Holds answer ↔
      List.Forall₂ (fun target source => (relation target source).Holds answer) targets sources := by
  rw [← holds_zipWith, pairwise]
  by_cases length_eq : targets.length = sources.length
  · rw [if_pos length_eq, and_iff_right length_eq]
  · rw [if_neg length_eq]
    simp [Holds, length_eq]

theorem holds_constantInArray {single : Constant} {array : List Constant} :
    (singleInArray (.constant single) (.constants array)).Holds answer ↔
      ∃ only, array = [only] ∧ only.sameValue single := by
  rcases array with _ | ⟨only, _ | ⟨second, rest⟩⟩ <;> simp [singleInArray, Holds]

theorem holds_referenceInArray {single : TypeId} {array : List TypeId} :
    (singleInArray (.reference single) (.references array)).Holds answer ↔
      ∃ only, array = [only] ∧ Relation.ofType.among answer .bound single only := by
  rcases array with _ | ⟨only, _ | ⟨second, rest⟩⟩ <;>
    simp [singleInArray, Holds, sameType, Relation.among]

theorem holds_sameContent {left right : ElementContent} :
    (sameContent left right).Holds answer ↔
      left.Alike (Relation.ofType.among answer .bound) right := by
  cases left <;> cases right
  case references.references => exact holds_pairwise
  case constant.constants | constants.constant => exact holds_constantInArray
  case reference.references | references.reference => exact holds_referenceInArray
  case reference.reference => exact Iff.rfl
  all_goals simp [sameContent, ElementContent.Alike, Holds]

theorem holds_sameUse {mode : Mode} {targetType sourceType : TypeId}
    {targets sources : List ElementValue} :
    (sameUse targetType sourceType targets sources).Holds answer ↔
      Node.AlikeNominal (Relation.ofType.among answer) mode (.annotationUse targetType targets)
        (.annotationUse sourceType sources) := by
  have elements : (targets.length = sources.length ∧
      (all (List.zipWith sameElement targets sources)).Holds answer) ↔
      List.Forall₂ (fun target source =>
        Relation.ofType.among answer .bound target.element source.element ∧
          target.content.Alike (Relation.ofType.among answer .bound) source.content)
        targets sources := by
    rw [holds_zipWith]
    simp only [sameElement, Holds, holds_sameContent]
    rfl
  rw [Node.AlikeNominal, ← elements, sameUse, Holds]
  refine and_congr Iff.rfl ?_
  split
  · next length_eq => rw [and_iff_right length_eq]
  · next length_ne => simp [Holds, length_ne]

theorem holds_sameVariable {mode : Mode} {target source : TypeVariable} :
    (sameVariable mode target source).Holds answer ↔
      target.name = source.name ∧ target.variance = source.variance ∧
        List.Forall₂ (Relation.ofType.among answer mode) target.bounds source.bounds := by
  rw [sameVariable, ← and_assoc]
  split
  · next alike => exact holds_pairwise.trans (and_iff_right alike).symm
  · next different => simp [Holds, different]

theorem holds_sameOptional {mode : Mode} {target source : Option TypeId} :
    (sameOptional mode target source).Holds answer ↔
      Option.Rel (Relation.ofType.among answer mode) target source := by
  cases target <;> cases source <;> simp [sameOptional, Holds, sameType, Relation.among]

theorem holds_sameMethod {mode : Mode} {target source : MethodDecl} :
    (sameMethod mode target source).Holds answer ↔
      target.name = source.name ∧ target.flags = source.flags ∧
        Relation.ofType.among answer mode target.declaringType source.declaringType ∧
        Relation.ofType.among answer mode target.returnType source.returnType ∧
        List.Forall₂ (Relation.ofType.among answer mode) target.parameterTypes
          source.parameterTypes ∧
        List.Forall₂ (Relation.ofType.among answer mode) target.thrownExceptions
          source.thrownExceptions := by
  rw [sameMethod]
  split
  · next alike =>
      obtain ⟨name_eq, flags_eq, -, -⟩ := alike
      rw [and_iff_right name_eq, and_iff_right flags_eq]
      simp only [all, List.foldr_cons, List.foldr_nil, Holds, holds_pairwise, and_true]
      rfl
  · next different =>
      refine iff_of_false (by simp [Holds]) ?_
      rintro ⟨name_eq, flags_eq, -, -, parameters, thrown⟩
      exact different ⟨name_eq, flags_eq, thrown.length_eq, parameters.length_eq⟩

end Goal

namespace Graph

variable {graph : Graph} {answer : Question → Prop} {question : Question}
  {targetNode sourceNode : Node}

theorem holds_withName {id : TypeId} {next : String → Goal} :
    (graph.withName id next).Holds answer ↔
      ∃ name ∈ graph.qualifiedName id, (next name).Holds answer := by
  rw [withName]
  cases graph.qualifiedName id <;> simp [Goal.Holds]

theorem holds_sameNominal :
    (graph.sameNominal question targetNode sourceNode).Holds answer ↔
      ∃ targetName ∈ graph.qualifiedName question.target,
        ∃ sourceName ∈ graph.qualifiedName question.source,
          if ClassName.normalize targetName = ClassName.normalize sourceName then
            targetNode.AlikeNominal (Relation.ofType.among answer) question.mode sourceNode
          else targetNode.sameValue sourceNode := by
  refine holds_withName.trans (exists_congr fun targetName => and_congr_right fun _ => ?_)
  refine holds_withName.trans (exists_congr fun sourceName => and_congr_right fun _ => ?_)
  by_cases name_eq : ClassName.normalize targetName = ClassName.normalize sourceName
  · rw [if_pos name_eq, if_pos (ClassName.same_iff.mpr name_eq)]
    cases targetNode <;> cases sourceNode
    case classDecl.classDecl => simp [Goal.Holds, Node.AlikeNominal]
    case parameterized.parameterized => exact Goal.holds_pairwise
    case annotationUse.annotationUse => exact Goal.holds_sameUse
    all_goals exact Iff.rfl
  · rw [if_neg name_eq, if_neg (mt ClassName.same_iff.mp name_eq)]
    rfl

theorem holds_equalityGoal :
    (graph.equalityGoal question targetNode sourceNode).Holds answer ↔
      graph.AlikeBy (Relation.ofType.among answer) question.mode question.target question.source
        targetNode sourceNode := by
  have otherwise : (if targetNode.isNominal && sourceNode.isNominal then
        graph.sameNominal question targetNode sourceNode
      else Goal.decided (targetNode.sameValue sourceNode)).Holds answer ↔
      if targetNode.isNominal ∧ sourceNode.isNominal then
        ∃ targetName ∈ graph.qualifiedName question.target,
          ∃ sourceName ∈ graph.qualifiedName question.source,
            if ClassName.normalize targetName = ClassName.normalize sourceName then
              targetNode.AlikeNominal (Relation.ofType.among answer) question.mode sourceNode
            else targetNode.sameValue sourceNode
      else targetNode.sameValue sourceNode := by
    simp only [Bool.and_eq_true]
    split
    · exact holds_sameNominal
    · rfl
  cases targetNode <;> cases sourceNode
  case primitive.primitive => simp [equalityGoal, AlikeBy, Goal.Holds]
  case array.array => exact Iff.rfl
  case typeVariable.typeVariable => exact Goal.holds_sameVariable
  case methodDecl.methodDecl => exact Goal.holds_sameMethod
  case variableDecl.variableDecl => exact and_congr Iff.rfl Goal.holds_sameOptional
  all_goals exact otherwise

/-- An equality is justified exactly if the rule for sameness says so. -/
theorem justified_ofType {mode : Mode} {target source : TypeId} :
    graph.Justified answer { relation := .ofType, target, source, mode } ↔
      graph.SameBy (Relation.ofType.among answer) mode target source := by
  refine justified_iff.trans (exists_congr fun targetNode => and_congr_right' ?_)
  refine exists_congr fun sourceNode => and_congr_right' ?_
  dsimp only [atOnce?, Question.equalAtOnce?]
  by_cases unknown : targetNode = .unknown ∨ sourceNode = .unknown
  · rw [if_pos unknown]
    refine iff_of_false Bool.false_ne_true ?_
    rintro ⟨target_known, source_known, -⟩
    exact unknown.elim target_known source_known
  rw [if_neg unknown, ← and_assoc, and_iff_right (not_or.mp unknown)]
  by_cases shortcut : target = source ∨ mode.infers targetNode sourceNode
  · rw [if_pos shortcut, ← or_assoc]
    exact iff_of_true rfl (Or.inl shortcut)
  rw [if_neg shortcut, ← or_assoc, or_iff_right shortcut]
  by_cases strings : (targetNode.isString && sourceNode.isString) = true
  · rw [if_pos strings]
    exact iff_of_true rfl (Or.inl (Bool.and_eq_true_iff.mp strings))
  rw [if_neg strings, or_iff_right (mt Bool.and_eq_true_iff.mpr strings)]
  exact holds_equalityGoal

/-- The rule for sameness as a function of the relation that it compares parts by. -/
def sameRules (graph : Graph) : TypeRelation →o TypeRelation where
  toFun := graph.SameBy
  monotone' := by
    intro same larger le mode target source alike
    have justified : graph.Justified (Relation.answers same ⊥)
        { relation := .ofType, target, source, mode } := justified_ofType.mpr alike
    exact justified_ofType.mp (justified.mono (Relation.answers_mono le le_rfl))

/-- Sameness of types: the greatest relation that obeys its own rule. -/
def Same (graph : Graph) : TypeRelation := graph.sameRules.gfp

theorem same_iff_sameBy {mode : Mode} {target source : TypeId} :
    graph.Same mode target source ↔ graph.SameBy graph.Same mode target source :=
  iff_of_eq (congrFun (congrFun (congrFun graph.sameRules.map_gfp.symm mode) target) source)

/-- Two types are the same exactly if the question whether they are is true. -/
theorem same_iff_valid {mode : Mode} {target source : TypeId} :
    graph.Same mode target source ↔
      graph.Valid { relation := .ofType, target, source, mode } := by
  constructor
  · intro same
    have closed : ∀ question, Relation.answers graph.Same ⊥ question →
        graph.Justified (Relation.answers graph.Same ⊥) question := by
      rintro ⟨relation, target, source, mode⟩ answered
      cases relation with
      | ofType => exact justified_ofType.mpr (same_iff_sameBy.mp answered)
      | assignableTo => exact answered.elim
    exact valid_of_closed closed same
  · intro valid
    have le : Relation.ofType.among graph.Valid ≤
        graph.sameRules (Relation.ofType.among graph.Valid) :=
      fun _ _ _ found => justified_ofType.mp (valid_iff.mp found)
    exact graph.sameRules.le_gfp le mode target source valid

end Graph

namespace Handle

/-- A handle that decides whether two types are the same decides it right, however the types refer
to each other: they are if it says yes, and they are not if it says no. -/
theorem same_iff_of_tryOfType {handle : Handle} {mode : Mode} {target source : TypeId}
    {holds : Bool}
    (answered : (handle.ask (.tryOfType target source mode)).1.answer = .ok (.truth holds)) :
    handle.env.toGraph.Same mode target source ↔ holds = true := by
  have reply : handle.tryAnswer { relation := .ofType, target, source, mode } =
      .ok (.truth holds) := answered
  exact Graph.same_iff_valid.trans (valid_iff_of_tryAnswer reply)

/-- A handle for a graph with two type variables `T extends Comparable<T>`. -/
def recursiveBounds : Handle where
  env := (Store.empty.run
    [.add (.classDecl { name := "java.lang.Comparable", kind := .interface }),
      .reserve, .add (.parameterized ⟨13⟩ [⟨14⟩]),
      .define ⟨14⟩ (.typeVariable { name := "T", variance := .covariant, bounds := [⟨15⟩] }),
      .reserve, .add (.parameterized ⟨13⟩ [⟨16⟩]),
      .define ⟨16⟩
        (.typeVariable { name := "T", variance := .covariant, bounds := [⟨17⟩] })]).environment

theorem same_of_recursiveBounds :
    (recursiveBounds.ask (.tryOfType ⟨14⟩ ⟨16⟩ .bound)).1.answer = .ok (.truth true) ∧
      recursiveBounds.env.toGraph.Same .bound ⟨14⟩ ⟨16⟩ :=
  ⟨rfl, (same_iff_of_tryOfType rfl).mpr rfl⟩

end Handle
end JavaTypes
