import JavaTypes.Proofs.Naming
import JavaTypes.Proofs.Registration
import JavaTypes.View

/-!
# Ground types

Sameness compares the parts of two types, assignability searches for names, follows the first bounds
of wildcards and boxes primitives.  On types that are built from classes and primitives by finitely
many arrays and type arguments the two agree so far that types that are the same are never denied to
be assignable, in either direction.  The denial is what is excluded: a class that is only reserved
may still leave a comparison without an answer.
-/

namespace JavaTypes
namespace Graph

/-- Whether a type argument is ground, where ground types are given: it is no wildcard, or one
without bounds, or one that varies and has a ground type as its first bound. -/
def GroundArgument (graph : Graph) (ground : TypeId → Prop) (argument : TypeId) : Prop :=
  match graph.node argument with
  | none => False
  | some (.typeVariable decl) =>
      decl.isWildcard = true →
        ∀ bound ∈ decl.bounds.head?, decl.variance ≠ .invariant ∧ ground bound
  | some _ => True

/-- Whether a type is ground by a derivation of at most a given depth: it is a class, an array of a
primitive or of a ground type, or a class applied to ground arguments. -/
def GroundWithin (graph : Graph) : Nat → TypeId → Prop
  | 0, _ => False
  | depth + 1, id =>
      match graph.node id with
      | some (.classDecl _) => True
      | some (.array element) =>
          (graph.primitive? element).isSome = true ∨ graph.GroundWithin depth element
      | some (.parameterized base arguments) =>
          graph.IsClass base ∧
            ∀ argument ∈ arguments, graph.GroundArgument (graph.GroundWithin depth) argument
      | _ => False

/-- Whether a type is ground. -/
def Ground (graph : Graph) (id : TypeId) : Prop := ∃ depth, graph.GroundWithin depth id

/-- Whether a question is never answered with no, whatever other questions are open. -/
def Undenied (graph : Graph) (question : Question) : Prop :=
  ∀ opened, (graph.run opened question).outcome ≠ .ok false

/-- Whether two types are not denied to be the same. -/
abbrev MayBeSame (graph : Graph) : TypeRelation := Relation.ofType.among graph.Undenied

/-- Whether a source is not denied to be assignable to a target. -/
abbrev MayFit (graph : Graph) : TypeRelation := Relation.assignableTo.among graph.Undenied

/-- Whether the marker of strings boxes, wherever there is a class of strings, to a namesake of that
class or to a slot that is still without a node. -/
def BoxesStrings (graph : Graph) : Prop :=
  ∀ id decl, graph.node id = some (.classDecl decl) → decl.name = ClassName.string →
    ∃ boxed ∈ graph.boxed .string, graph.node boxed = none ∨
      ∃ other, graph.node boxed = some (.classDecl other) ∧
        ClassName.normalize other.name = ClassName.normalize ClassName.string

variable {graph : Graph} {question : Question} {mode : Mode} {depth : Nat}
  {sourceDepth : Nat} {id target source : TypeId} {ground groundToo : TypeId → Prop}

/-- What is justified by questions that are not denied is not denied either. -/
theorem undenied_of_justified (justified : graph.Justified graph.Undenied question) :
    graph.Undenied question := by
  intro opened denied
  cases step : graph.step question with
  | settled outcome =>
      rw [justified_of_settled step] at justified
      rw [run_of_settled step, justified] at denied
      cases denied
  | reduced goal =>
      by_cases known : question ∈ opened
      · rw [run_of_open step known] at denied
        cases denied
      · rw [run_of_fresh step known] at denied
        have sound (other : Question)
            (found : (graph.run (question :: opened) other).outcome = .ok false) :
            ¬ graph.Undenied other := fun undenied => undenied _ found
        exact Goal.not_holds_of_tried sound denied ((justified_of_reduced step).mp justified)

theorem Valid.undenied (valid : graph.Valid question) : graph.Undenied question :=
  fun _ denied => not_valid_of_run denied valid

theorem mayBeSame_of_same (same : graph.Same mode target source) :
    graph.MayBeSame mode target source :=
  Valid.undenied (same_iff_valid.mp same)

theorem mayFit_of_fits {targetNode sourceNode : Node}
    (target_eq : graph.node target = some targetNode)
    (source_eq : graph.node source = some sourceNode) (target_known : targetNode ≠ .unknown)
    (source_known : sourceNode ≠ .unknown) (not_wildcard : targetNode.isWildcard = false)
    (not_null : sourceNode ≠ .primitive .null)
    (fits : target = source ∨
      graph.Fits graph.MayBeSame graph.MayFit mode target source sourceNode targetNode) :
    graph.MayFit mode target source := by
  refine undenied_of_justified (justified_assignableTo.mpr
    ⟨targetNode, target_eq, sourceNode, source_eq, target_known, source_known, not_wildcard, ?_⟩)
  rw [if_neg not_null]
  exact fits.imp_right Or.inr

/-- A comparison with a type that is not there is not denied. -/
theorem mayFit_of_absent {node : Node} (target_eq : graph.node target = some node)
    (absent : graph.node source = none) : graph.MayFit mode target source := by
  intro opened denied
  have settled : graph.step ⟨.assignableTo, target, source, mode⟩ =
      .settled (.error (.danglingType source)) := by
    simp only [step, target_eq, absent]
  rw [run_of_settled settled] at denied
  cases denied

theorem mayFit_of_namesakes {targetDecl sourceDecl : ClassDecl}
    (target_eq : graph.node target = some (.classDecl targetDecl))
    (source_eq : graph.node source = some (.classDecl sourceDecl))
    (name_eq : ClassName.normalize targetDecl.name = ClassName.normalize sourceDecl.name) :
    graph.MayFit mode target source := by
  refine mayFit_of_fits target_eq source_eq (by simp) (by simp) rfl (by simp) (Or.inr ?_)
  exact ⟨targetDecl.name, qualifiedName_eq_some target_eq, source, .refl,
    _, source_eq, sourceDecl.name, qualifiedName_eq_some source_eq, name_eq⟩

/-- The forms of ground types. -/
theorem GroundWithin.cases (within : graph.GroundWithin depth id) :
    (∃ decl, graph.node id = some (.classDecl decl)) ∨
      (∃ element, graph.node id = some (.array element)) ∨
      ∃ base arguments, graph.node id = some (.parameterized base arguments) := by
  cases depth with
  | zero => exact within.elim
  | succ depth =>
      rw [GroundWithin] at within
      split at within
      · next decl node_eq => exact Or.inl ⟨decl, node_eq⟩
      · next element node_eq => exact Or.inr (Or.inl ⟨element, node_eq⟩)
      · next base arguments node_eq => exact Or.inr (Or.inr ⟨base, arguments, node_eq⟩)
      · exact within.elim

/-- A ground type is not denied to be assignable to itself. -/
theorem GroundWithin.mayFit_self (within : graph.GroundWithin depth id) :
    graph.MayFit mode id id := by
  rcases within.cases with ⟨decl, node_eq⟩ | ⟨element, node_eq⟩ | ⟨base, arguments, node_eq⟩
  all_goals
    exact mayFit_of_fits node_eq node_eq (by simp) (by simp) rfl (by simp) (Or.inl rfl)

/-- Only the class of strings is a ground type that is a string. -/
theorem GroundWithin.exists_of_isString {node : Node} (within : graph.GroundWithin depth id)
    (node_eq : graph.node id = some node) (string : node.isString = true) :
    ∃ decl, graph.node id = some (.classDecl decl) ∧ decl.name = ClassName.string := by
  rcases within.cases with ⟨decl, own_eq⟩ | ⟨element, own_eq⟩ | ⟨base, arguments, own_eq⟩
  · obtain rfl := Option.some.inj (node_eq.symm.trans own_eq)
    exact ⟨decl, own_eq, eq_of_beq string⟩
  · obtain rfl := Option.some.inj (node_eq.symm.trans own_eq)
    cases string
  · obtain rfl := Option.some.inj (node_eq.symm.trans own_eq)
    cases string

/-- A primitive that is the same as a ground type is the marker of strings, and is not denied to be
assignable to it. -/
theorem GroundWithin.mayFit_of_primitive {kind : Primitive} (boxes : graph.BoxesStrings)
    (within : graph.GroundWithin depth target)
    (source_eq : graph.node source = some (.primitive kind))
    (same : graph.Same .bound target source) : graph.MayFit mode target source := by
  obtain ⟨targetNode, target_eq, sourceNode, sourceNode_eq, -, -, alike⟩ := same_iff_sameBy.mp same
  obtain rfl := Option.mem_unique sourceNode_eq source_eq
  have no_primitive : targetNode ≠ .primitive kind := by
    rintro rfl
    rcases within.cases with ⟨decl, own_eq⟩ | ⟨element, own_eq⟩ | ⟨base, arguments, own_eq⟩ <;>
      cases Option.some.inj (target_eq.symm.trans own_eq)
  rcases alike with rfl | infers | ⟨target_string, source_string⟩ | built
  · exact absurd (Option.mem_unique target_eq source_eq) no_primitive
  · exact absurd infers Bool.false_ne_true
  · obtain ⟨decl, class_eq, name_eq⟩ := within.exists_of_isString target_eq target_string
    obtain rfl : kind = .string := eq_of_beq source_string
    obtain ⟨boxed, boxed_eq, box⟩ := boxes target decl class_eq name_eq
    have fits : graph.MayFit mode target boxed := by
      rcases box with absent | ⟨other, other_eq, other_name⟩
      · exact mayFit_of_absent class_eq absent
      · exact mayFit_of_namesakes class_eq other_eq (name_eq ▸ other_name.symm)
    exact mayFit_of_fits class_eq source_eq (by simp) (by simp) rfl (by simp)
      (Or.inr ⟨boxed, boxed_eq, fits⟩)
  · cases (alikeBy_iff_matched target_eq source_eq).mp built
    exact absurd rfl no_primitive

/-- Wildcards that are the same offer the same first bound. -/
theorem exists_offered_of_same {wildcard : TypeVariable} {argument other bound : TypeId}
    (node_eq : graph.node argument = some (.typeVariable wildcard))
    (first : wildcard.bounds.head? = some bound) (same : graph.Same .bound argument other) :
    ∃ decl offered, graph.node other = some (.typeVariable decl) ∧ decl.name = wildcard.name ∧
      decl.variance = wildcard.variance ∧ decl.bounds.head? = some offered ∧
      (bound = offered ∨ graph.Same .bound bound offered) := by
  obtain ⟨_, argument_eq, otherNode, other_eq, -, -, alike⟩ := same_iff_sameBy.mp same
  obtain rfl := Option.mem_unique argument_eq node_eq
  rcases alike with rfl | infers | strings | built
  · exact ⟨wildcard, bound, node_eq, rfl, rfl, first, Or.inl rfl⟩
  · exact absurd infers Bool.false_ne_true
  · exact absurd strings.1 Bool.false_ne_true
  · cases (alikeBy_iff_matched node_eq other_eq).mp built with
    | @typeVariable _ decl name variance bounds =>
        obtain ⟨others, bounds_eq⟩ := List.head?_eq_some_iff.mp first
        rw [bounds_eq] at bounds
        obtain ⟨offered, rest, same_first, -, decl_eq⟩ := List.forall₂_cons_left_iff.mp bounds
        exact ⟨decl, offered, other_eq, name.symm, variance.symm,
          List.head?_eq_some_iff.mpr ⟨rest, decl_eq⟩, Or.inr same_first⟩

/-- A ground argument fits one that is the same, if that is so of the types that bound them. -/
theorem argumentFits_of_same {argument other : TypeId}
    (each : ∀ bound offered, ground bound → groundToo offered →
      bound = offered ∨ graph.Same .bound bound offered →
      graph.MayFit .bound bound offered ∧ graph.MayFit .bound offered bound)
    (argument_ground : graph.GroundArgument ground argument)
    (other_ground : graph.GroundArgument groundToo other)
    (same : graph.Same .bound argument other) :
    graph.ArgumentFits graph.MayBeSame graph.MayFit .bound argument other := by
  have may_be_same := mayBeSame_of_same same
  obtain ⟨node, node_eq, -⟩ := same_iff_sameBy.mp same
  refine ⟨node, node_eq, ?_⟩
  cases node with
  | typeVariable decl =>
      dsimp only
      split
      · next wildcard =>
          intro bound first
          obtain ⟨otherDecl, offered, other_eq, name_eq, variance_eq, otherFirst, alike⟩ :=
            exists_offered_of_same node_eq first same
          have otherWildcard : otherDecl.isWildcard = true := by
            rw [TypeVariable.isWildcard, name_eq]
            exact wildcard
          rw [GroundArgument, node_eq] at argument_ground
          rw [GroundArgument, other_eq] at other_ground
          obtain ⟨varies, bound_ground⟩ := argument_ground wildcard bound first
          obtain ⟨-, offered_ground⟩ := other_ground otherWildcard offered otherFirst
          obtain ⟨forth, back⟩ := each bound offered bound_ground offered_ground alike
          refine ⟨_, other_eq, offered, ?_, ?_⟩
          · simp [TypeVariable.offered?, otherWildcard, variance_eq, otherFirst]
          · rw [TypeVariable.Admits]
            cases variance : decl.variance with
            | invariant => exact absurd variance varies
            | covariant => exact forth
            | contravariant => exact back
      · exact may_be_same
  | _ => exact may_be_same

/-- An array of a ground type or a primitive fits one of the same elements, if that is so of the
elements when both are ground. -/
theorem mayFit_of_elements {element sourceElement : TypeId} (boxes : graph.BoxesStrings)
    (target_eq : graph.node target = some (.array element))
    (source_eq : graph.node source = some (.array sourceElement))
    (element_ground : (graph.primitive? element).isSome = true ∨ graph.GroundWithin depth element)
    (source_ground : (graph.primitive? sourceElement).isSome = true ∨
      graph.GroundWithin sourceDepth sourceElement)
    (same : graph.Same .bound element sourceElement)
    (each : graph.GroundWithin depth element → graph.GroundWithin sourceDepth sourceElement →
      graph.MayFit .bound element sourceElement) : graph.MayFit .bound target source := by
  have primitive_eq {id : TypeId} (found : (graph.primitive? id).isSome = true) :
      ∃ kind, graph.node id = some (.primitive kind) := by
    rw [primitive?] at found
    split at found
    · next kind node_eq => exact ⟨kind, node_eq⟩
    · cases found
  have element_fits :
      graph.FitsArray graph.MayBeSame graph.MayFit .bound element (.array sourceElement) := by
    rcases element_ground with primitive | within
    · obtain ⟨kind, element_eq⟩ := primitive_eq primitive
      exact ⟨_, element_eq, mayBeSame_of_same same⟩
    · have fits : graph.MayFit .bound element sourceElement := by
        rcases source_ground with primitive | sourceWithin
        · obtain ⟨kind, sourceElement_eq⟩ := primitive_eq primitive
          exact within.mayFit_of_primitive boxes sourceElement_eq same
        · exact each within sourceWithin
      rcases within.cases with ⟨decl, node_eq⟩ | ⟨inner, node_eq⟩ | ⟨base, arguments, node_eq⟩
      · exact ⟨_, node_eq, fits⟩
      · exact ⟨_, node_eq, fits⟩
      · exact ⟨_, node_eq, fits⟩
  exact mayFit_of_fits target_eq source_eq (by simp) (by simp) rfl (by simp) (Or.inr element_fits)

/-- A class applied to arguments fits a namesake applied to arguments that fit. -/
theorem mayFit_of_arguments {base sourceBase : TypeId} {arguments sourceArguments : List TypeId}
    (target_eq : graph.node target = some (.parameterized base arguments))
    (source_eq : graph.node source = some (.parameterized sourceBase sourceArguments))
    (base_class : graph.IsClass base) (source_class : graph.IsClass sourceBase)
    (named : graph.Namesakes target source)
    (fits : List.Forall₂ (graph.ArgumentFits graph.MayBeSame graph.MayFit .bound) arguments
      sourceArguments) : graph.MayFit .bound target source := by
  obtain ⟨decl, base_eq⟩ := base_class
  obtain ⟨sourceDecl, sourceBase_eq⟩ := source_class
  obtain ⟨name, name_mem, sourceName, sourceName_mem, name_eq⟩ := named
  have target_name : graph.qualifiedName target = some decl.name := by
    simp only [qualifiedName, classBehind, target_eq, classDecl?_eq_some base_eq, Option.map_some]
  have source_name : graph.qualifiedName source = some sourceDecl.name := by
    simp only [qualifiedName, classBehind, source_eq, classDecl?_eq_some sourceBase_eq,
      Option.map_some]
  obtain rfl := Option.mem_unique name_mem target_name
  obtain rfl := Option.mem_unique sourceName_mem source_name
  have bases : graph.MayFit .bound base sourceBase :=
    mayFit_of_namesakes base_eq sourceBase_eq name_eq
  exact mayFit_of_fits target_eq source_eq (by simp) (by simp) rfl (by simp)
    (Or.inr ⟨bases, fits⟩)

theorem forall₂_argumentFits_of_same {arguments others : List TypeId}
    (each : ∀ bound offered, ground bound → groundToo offered →
      bound = offered ∨ graph.Same .bound bound offered →
      graph.MayFit .bound bound offered ∧ graph.MayFit .bound offered bound)
    (arguments_ground : ∀ argument ∈ arguments, graph.GroundArgument ground argument)
    (others_ground : ∀ other ∈ others, graph.GroundArgument groundToo other)
    (same : List.Forall₂ (graph.Same .bound) arguments others) :
    List.Forall₂ (graph.ArgumentFits graph.MayBeSame graph.MayFit .bound) arguments others := by
  induction same with
  | nil => exact .nil
  | cons head tail ih =>
      obtain ⟨argument, rest⟩ := List.forall_mem_cons.mp arguments_ground
      obtain ⟨other, others⟩ := List.forall_mem_cons.mp others_ground
      exact .cons (argumentFits_of_same each argument other head) (ih rest others)

/-- Ground types that are the same are not denied to be assignable, in either direction.  A lower
bound exchanges the sides, so that the induction has to carry both. -/
theorem mayFit_of_same (boxes : graph.BoxesStrings) (within : graph.GroundWithin depth target)
    (sourceWithin : graph.GroundWithin sourceDepth source)
    (same : graph.Same .bound target source) :
    graph.MayFit .bound target source ∧ graph.MayFit .bound source target := by
  have symmetric := graph.selfDual_same .bound
  induction depth generalizing target source sourceDepth with
  | zero => exact within.elim
  | succ depth ih =>
      cases sourceDepth with
      | zero => exact sourceWithin.elim
      | succ sourceDepth =>
          have each (bound offered : TypeId) (bound_ground : graph.GroundWithin depth bound)
              (offered_ground : graph.GroundWithin sourceDepth offered)
              (alike : bound = offered ∨ graph.Same .bound bound offered) :
              graph.MayFit .bound bound offered ∧ graph.MayFit .bound offered bound := by
            rcases alike with rfl | same
            · exact ⟨bound_ground.mayFit_self, bound_ground.mayFit_self⟩
            · exact ih bound_ground offered_ground same
          have eachBack (offered bound : TypeId)
              (offered_ground : graph.GroundWithin sourceDepth offered)
              (bound_ground : graph.GroundWithin depth bound)
              (alike : offered = bound ∨ graph.Same .bound offered bound) :
              graph.MayFit .bound offered bound ∧ graph.MayFit .bound bound offered :=
            (each bound offered bound_ground offered_ground
              (alike.imp Eq.symm (symmetric _ _))).symm
          obtain ⟨targetNode, target_eq, sourceNode, source_eq, -, -, alike⟩ :=
            same_iff_sameBy.mp same
          rcases alike with rfl | infers | ⟨target_string, source_string⟩ | built
          · exact ⟨within.mayFit_self, within.mayFit_self⟩
          · exact absurd infers Bool.false_ne_true
          · obtain ⟨decl, class_eq, name_eq⟩ := within.exists_of_isString target_eq target_string
            obtain ⟨sourceDecl, sourceClass_eq, sourceName_eq⟩ :=
              sourceWithin.exists_of_isString source_eq source_string
            have names_eq : decl.name = sourceDecl.name := name_eq.trans sourceName_eq.symm
            exact ⟨mayFit_of_namesakes class_eq sourceClass_eq (congrArg _ names_eq),
              mayFit_of_namesakes sourceClass_eq class_eq (congrArg _ names_eq.symm)⟩
          · rw [GroundWithin, target_eq] at within
            rw [GroundWithin, source_eq] at sourceWithin
            cases (alikeBy_iff_matched target_eq source_eq).mp built with
            | classDecl named =>
                obtain ⟨name, name_mem, sourceName, sourceName_mem, name_eq⟩ := named
                obtain rfl := Option.mem_unique name_mem (qualifiedName_eq_some target_eq)
                obtain rfl := Option.mem_unique sourceName_mem (qualifiedName_eq_some source_eq)
                exact ⟨mayFit_of_namesakes target_eq source_eq name_eq,
                  mayFit_of_namesakes source_eq target_eq name_eq.symm⟩
            | parameterized named arguments =>
                obtain ⟨base_class, arguments_ground⟩ := within
                obtain ⟨source_class, others_ground⟩ := sourceWithin
                have back := (arguments.imp symmetric).flip
                exact ⟨mayFit_of_arguments target_eq source_eq base_class source_class named
                    (forall₂_argumentFits_of_same each arguments_ground others_ground arguments),
                  mayFit_of_arguments source_eq target_eq source_class base_class named.symm
                    (forall₂_argumentFits_of_same eachBack others_ground arguments_ground back)⟩
            | array element =>
                exact ⟨mayFit_of_elements boxes target_eq source_eq within sourceWithin element
                    fun ground sourceGround => (ih ground sourceGround element).1,
                  mayFit_of_elements boxes source_eq target_eq sourceWithin within
                    (symmetric _ _ element)
                    fun sourceGround ground => (ih ground sourceGround element).2⟩
            | _ => exact within.elim

end Graph

theorem Store.Coherent.boxesStrings {store : Store} (coherent : store.Coherent) :
    store.graph.BoxesStrings := by
  intro id decl present name_eq
  let key := ClassName.normalize ClassName.string
  have held : store.HoldsClass key id := holdsClass_iff.mpr ⟨decl, present, congrArg _ name_eq⟩
  obtain ⟨boxed, found⟩ := Option.ne_none_iff_exists'.mp (coherent.class_known id key held)
  refine ⟨boxed, found, ?_⟩
  rcases coherent.index_leads key boxed found with heldToo | ⟨vacant, -⟩
  · exact Or.inr (holdsClass_iff.mp heldToo)
  · exact Or.inl vacant.node?_eq_none

namespace Handle

/-- A handle for a store that finds two ground types the same, with every type variable bound, does
not deny that one may be assigned to the other. -/
theorem ground_same_not_denied {store : Store} {limits : Limits} {target source : TypeId}
    (reached : store.Reached) (targetGround : store.graph.Ground target)
    (sourceGround : store.graph.Ground source) :
    let handle : Handle := { env := store.environment, limits }
    (handle.ask (.tryOfType target source .bound)).1.answer = .ok (.truth true) →
      (handle.ask (.tryAssignable target source .bound)).1.answer ≠ .ok (.truth false) := by
  intro handle answered denied
  obtain ⟨depth, within⟩ := targetGround
  obtain ⟨sourceDepth, sourceWithin⟩ := sourceGround
  have same : store.graph.Same .bound target source := (same_iff_of_tryOfType answered).mpr rfl
  have fits := (Graph.mayFit_of_same reached.coherent.boxesStrings within sourceWithin same).1
  have reply : handle.tryAnswer
      { relation := .assignableTo, target, source, mode := .bound } = .ok (.truth false) := denied
  exact fits [] (outcome_of_tryAnswer reply)

/-- A store with two types `Box<? super String[]>`, one of which has the marker of strings in the
place of the class. -/
def boxedStrings : Store :=
  Store.empty.run
    [.add (.classDecl { name := ClassName.string }), .add (.classDecl { name := "Box" }),
      .add (.array ⟨13⟩), .add (.array (Store.primitive .string)),
      .add (.typeVariable { name := "?", variance := .contravariant, bounds := [⟨15⟩] }),
      .add (.typeVariable { name := "?", variance := .contravariant, bounds := [⟨16⟩] }),
      .add (.parameterized ⟨14⟩ [⟨17⟩]), .add (.parameterized ⟨14⟩ [⟨18⟩])]

theorem ground_same_not_denied_of_boxedStrings :
    let handle : Handle := { env := boxedStrings.environment }
    boxedStrings.Reached ∧ boxedStrings.graph.Ground ⟨20⟩ ∧ boxedStrings.graph.Ground ⟨19⟩ ∧
      (handle.ask (.tryOfType ⟨20⟩ ⟨19⟩ .bound)).1.answer = .ok (.truth true) ∧
      (handle.ask (.tryAssignable ⟨20⟩ ⟨19⟩ .bound)).1.answer ≠ .ok (.truth false) := by
  intro handle
  have reached : boxedStrings.Reached := ⟨Store.empty, _, .empty, rfl⟩
  have box : boxedStrings.graph.IsClass ⟨14⟩ := by decide +kernel
  have lower (wildcard bound type : TypeId)
      (wildcard_eq : boxedStrings.graph.node wildcard = some (.typeVariable
        { name := "?", variance := .contravariant, bounds := [bound] }))
      (type_eq : boxedStrings.graph.node type = some (.parameterized ⟨14⟩ [wildcard]))
      (bound_ground : boxedStrings.graph.GroundWithin 2 bound) : boxedStrings.graph.Ground type := by
    refine ⟨3, ?_⟩
    rw [Graph.GroundWithin, type_eq]
    refine ⟨box, List.forall_mem_singleton.mpr ?_⟩
    rw [Graph.GroundArgument, wildcard_eq]
    rintro - _ ⟨⟩
    exact ⟨by simp, bound_ground⟩
  have classes : boxedStrings.graph.GroundWithin 2 ⟨15⟩ := by
    have string_eq : boxedStrings.graph.node ⟨13⟩ =
        some (.classDecl { name := ClassName.string }) := by decide +kernel
    have array_eq : boxedStrings.graph.node ⟨15⟩ = some (.array ⟨13⟩) := by decide +kernel
    rw [Graph.GroundWithin, array_eq]
    refine Or.inr ?_
    rw [Graph.GroundWithin, string_eq]
    trivial
  have markers : boxedStrings.graph.GroundWithin 2 ⟨16⟩ := by
    have array_eq : boxedStrings.graph.node ⟨16⟩ = some (.array (Store.primitive .string)) := by
      decide +kernel
    rw [Graph.GroundWithin, array_eq]
    exact Or.inl (by decide +kernel)
  have ofClasses := lower ⟨17⟩ ⟨15⟩ ⟨19⟩ (by decide +kernel) (by decide +kernel) classes
  have ofMarkers := lower ⟨18⟩ ⟨16⟩ ⟨20⟩ (by decide +kernel) (by decide +kernel) markers
  have same : (handle.ask (.tryOfType ⟨20⟩ ⟨19⟩ .bound)).1.answer = .ok (.truth true) := by
    decide +kernel
  exact ⟨reached, ofMarkers, ofClasses, same,
    ground_same_not_denied reached ofMarkers ofClasses same⟩

end Handle
end JavaTypes
