import JavaTypes.Proofs.Naming
import JavaTypes.View

/-!
# Subtyping between classes

One class may be assigned to another exactly if the walk through its supertypes comes to the other,
with or without type arguments.  What stands for a class goes on to the supertypes of that class, so
that subtyping is transitive; and it is antisymmetric where no class comes back to itself.  Arrays
of classes follow the classes.
-/

namespace JavaTypes
namespace Graph

/-- Whether a walk through supertypes, bounds and the types of variables and methods comes from a
type to a class. -/
def ComesTo (graph : Graph) (source cls : TypeId) : Prop :=
  ∃ id, Relation.ReflTransGen (Leads graph.ancestors) source id ∧ graph.declared? id = some cls

/-- Whether a type is an array of a class with a number of dimensions, or the class itself if that
is zero. -/
def IsArrayOf (graph : Graph) : Nat → TypeId → TypeId → Prop
  | 0, id, cls => graph.IsClass id ∧ id = cls
  | dimensions + 1, id, cls =>
      ∃ element, graph.element? id = some element ∧ graph.IsArrayOf dimensions element cls

/-- A graph in which names tell the classes apart and no walk comes from a class to a primitive. -/
structure Hierarchical (graph : Graph) : Prop where
  names_apart : graph.NamesClassesApart
  names_plain : graph.NamesPlainly
  no_primitive : ∀ cls, graph.IsClass cls → ∀ id,
    Relation.ReflTransGen (Leads graph.ancestors) cls id → graph.primitive? id = none

/-- Whether no walk comes from a class by at least one step to what stands for the same class. -/
def Acyclic (graph : Graph) : Prop :=
  ∀ cls, graph.IsClass cls → ∀ id,
    Relation.TransGen (Leads graph.ancestors) cls id → graph.declared? id ≠ some cls

variable {graph : Graph} {mode : Mode} {dimensions : Nat}
  {id cls target source first second third : TypeId} {decl : ClassDecl}

theorem hierarchical_iff :
    graph.Hierarchical ↔ graph.NamesClassesApart ∧ graph.NamesPlainly ∧
      ∀ raw < graph.size, graph.IsClass ⟨raw⟩ →
        ∀ id ∈ (graph.walk graph.ancestors ⟨raw⟩).toList, graph.primitive? id = none := by
  have primitive_iff :
      (∀ cls, graph.IsClass cls → ∀ id, Relation.ReflTransGen (Leads graph.ancestors) cls id →
        graph.primitive? id = none) ↔
      ∀ raw < graph.size, graph.IsClass ⟨raw⟩ →
        ∀ id ∈ (graph.walk graph.ancestors ⟨raw⟩).toList, graph.primitive? id = none := by
    simp only [mem_walk_ancestors_iff]
    exact forall_isClass_iff
  rw [← primitive_iff]
  exact ⟨fun ⟨apart, plain, primitive⟩ => ⟨apart, plain, primitive⟩,
    fun ⟨apart, plain, primitive⟩ => ⟨apart, plain, primitive⟩⟩

instance : Decidable graph.Hierarchical := decidable_of_iff _ hierarchical_iff.symm

theorem acyclic_iff :
    graph.Acyclic ↔ ∀ raw < graph.size, graph.IsClass ⟨raw⟩ →
      ∀ references ∈ graph.ancestors ⟨raw⟩, ∀ next ∈ references,
        ∀ id ∈ (graph.walk graph.ancestors next).toList, graph.declared? id ≠ some ⟨raw⟩ := by
  rw [Acyclic, forall_isClass_iff]
  refine forall₂_congr fun raw _ => forall_congr' fun _ => ?_
  simp only [mem_walk_ancestors_iff, Relation.TransGen.head'_iff, Leads]
  grind

instance : Decidable graph.Acyclic := decidable_of_iff _ acyclic_iff.symm

theorem leads_of_declared? (isClass : graph.IsClass cls) (stands : graph.declared? id = some cls)
    {next : TypeId} (step : Leads graph.ancestors cls next) : Leads graph.ancestors id next := by
  rw [Leads, ancestors_of_declared? stands isClass]
  exact step

theorem ComesTo.refl (isClass : graph.IsClass cls) : graph.ComesTo cls cls :=
  ⟨cls, .refl, declared?_of_isClass isClass⟩

theorem ComesTo.trans (isClass : graph.IsClass second) (firstSecond : graph.ComesTo first second)
    (secondThird : graph.ComesTo second third) : graph.ComesTo first third := by
  obtain ⟨reached, path, stands⟩ := firstSecond
  obtain ⟨last, rest, stands_last⟩ := secondThird
  rcases rest.cases_head with rfl | ⟨next, step, rest⟩
  · rw [declared?_of_isClass isClass] at stands_last
    exact ⟨reached, path, stands.trans stands_last⟩
  · exact ⟨last, (path.tail (leads_of_declared? isClass stands step)).trans rest, stands_last⟩

theorem ComesTo.antisymm (acyclic : graph.Acyclic) (firstClass : graph.IsClass first)
    (secondClass : graph.IsClass second) (firstSecond : graph.ComesTo first second)
    (secondFirst : graph.ComesTo second first) : first = second := by
  obtain ⟨reached, path, stands⟩ := firstSecond
  obtain ⟨last, back, stands_last⟩ := secondFirst
  rcases back.cases_head with rfl | ⟨next, step, back⟩
  · rw [declared?_of_isClass secondClass] at stands_last
    exact (Option.some.inj stands_last).symm
  -- Otherwise the two walks together lead from the first class back to itself.
  · have round : Relation.TransGen (Leads graph.ancestors) first last :=
      (Relation.TransGen.tail' path (leads_of_declared? secondClass stands step)).trans_left back
    exact absurd stands_last (acyclic first firstClass last round)

theorem bearsName_iff_declared? {assignable : TypeRelation} (apart : graph.NamesClassesApart)
    (plain : graph.NamesPlainly) (cls_eq : graph.node cls = some (.classDecl decl))
    (no_primitive : graph.primitive? id = none) :
    graph.BearsName assignable decl.name id ↔ graph.declared? id = some cls := by
  have plain_name : '<' ∉ decl.name.toList := plain cls decl (classDecl?_eq_some cls_eq)
  rw [← isCalled_iff_declared? apart cls_eq]
  constructor
  · rintro ⟨node, node_eq, bears⟩
    cases node with
    | primitive kind =>
        rw [primitive?, node_eq] at no_primitive
        cases no_primitive
    | classDecl own => exact bears
    | annotationUse type values => exact bears
    | parameterized base arguments =>
        rw [isWritten_eq_false node_eq plain_name] at bears
        exact bears.resolve_left Bool.false_ne_true
    | unknown | array _ | typeVariable _ | intersection _ | variableDecl _ | methodDecl _
    | multiCatch _ => exact bears.elim
  · intro called
    have stands := (isCalled_iff_declared? apart cls_eq).mp called
    rw [declared?] at stands
    split at stands
    · next own node_eq => exact ⟨_, node_eq, called⟩
    · next base arguments node_eq => exact ⟨_, node_eq, Or.inr called⟩
    · next type values node_eq => exact ⟨_, node_eq, called⟩
    · cases stands

/-- A class may be assigned to another exactly if the walk from it comes to the other. -/
theorem assignable_iff_comesTo (hierarchical : graph.Hierarchical)
    (targetClass : graph.IsClass target) (sourceClass : graph.IsClass source) :
    graph.Assignable mode target source ↔ graph.ComesTo source target := by
  obtain ⟨targetDecl, target_eq⟩ := targetClass
  obtain ⟨sourceDecl, source_eq⟩ := sourceClass
  have bears_iff {id : TypeId}
      (path : Relation.ReflTransGen (Leads graph.ancestors) source id) :
      graph.BearsName graph.Assignable targetDecl.name id ↔ graph.declared? id = some target :=
    bearsName_iff_declared? hierarchical.names_apart hierarchical.names_plain target_eq
      (hierarchical.no_primitive source ⟨sourceDecl, source_eq⟩ id path)
  rw [assignable_iff_fits target_eq rfl source_eq rfl nofun]
  constructor
  · rintro (rfl | ⟨name, name_mem, id, path, bears⟩)
    · exact .refl ⟨targetDecl, target_eq⟩
    · rw [qualifiedName_eq_some target_eq] at name_mem
      obtain rfl := Option.some.inj name_mem
      exact ⟨id, path, (bears_iff path).mp bears⟩
  · rintro ⟨id, path, stands⟩
    exact Or.inr ⟨targetDecl.name, qualifiedName_eq_some target_eq, id, path,
      (bears_iff path).mpr stands⟩

theorem IsArrayOf.isClass (arrayOf : graph.IsArrayOf dimensions id cls) : graph.IsClass cls := by
  induction dimensions generalizing id with
  | zero => exact arrayOf.2 ▸ arrayOf.1
  | succ dimensions ih =>
      obtain ⟨element, -, elementOf⟩ := arrayOf
      exact ih elementOf

theorem IsArrayOf.unique (firstOf : graph.IsArrayOf dimensions id first)
    (secondOf : graph.IsArrayOf dimensions id second) : first = second := by
  induction dimensions generalizing id with
  | zero => exact firstOf.2.symm.trans secondOf.2
  | succ dimensions ih =>
      obtain ⟨element, element_eq, elementOf⟩ := firstOf
      obtain ⟨other, other_eq, otherOf⟩ := secondOf
      obtain rfl := Option.some.inj (element_eq.symm.trans other_eq)
      exact ih elementOf otherOf

theorem element?_eq_some {element : TypeId} :
    graph.element? id = some element ↔ graph.node id = some (.array element) := by
  rw [element?]
  split
  · next node_eq => simp [node_eq]
  · next other => simpa using other element

/-- An array of classes has elements that are present and not primitive. -/
theorem IsArrayOf.exists_node (arrayOf : graph.IsArrayOf dimensions id cls) :
    ∃ node, graph.node id = some node ∧ ∀ kind, node ≠ .primitive kind := by
  cases dimensions with
  | zero =>
      obtain ⟨⟨decl, node_eq⟩, -⟩ := arrayOf
      exact ⟨_, node_eq, nofun⟩
  | succ dimensions =>
      obtain ⟨element, element_eq, -⟩ := arrayOf
      exact ⟨_, element?_eq_some.mp element_eq, nofun⟩

theorem assignable_array_iff {element sourceElement : TypeId} {node : Node}
    (target_eq : graph.node target = some (.array element))
    (source_eq : graph.node source = some (.array sourceElement))
    (element_eq : graph.node element = some node) (no_primitive : ∀ kind, node ≠ .primitive kind) :
    graph.Assignable mode target source ↔
      target = source ∨ graph.Assignable mode element sourceElement := by
  have fits_iff : graph.FitsArray graph.Same graph.Assignable mode element (.array sourceElement) ↔
      graph.Assignable mode element sourceElement := by
    simp only [FitsArray, element_eq, Option.mem_def, Option.some.injEq, exists_eq_left']
  exact (assignable_iff_fits target_eq rfl source_eq rfl nofun).trans (or_congr_right fits_iff)

/-- Arrays of classes follow the classes. -/
theorem assignable_iff_comesTo_of_arrays (hierarchical : graph.Hierarchical)
    (targetOf : graph.IsArrayOf dimensions target first)
    (sourceOf : graph.IsArrayOf dimensions source second) :
    graph.Assignable mode target source ↔ graph.ComesTo second first := by
  induction dimensions generalizing target source with
  | zero =>
      obtain ⟨targetClass, rfl⟩ := targetOf
      obtain ⟨sourceClass, rfl⟩ := sourceOf
      exact assignable_iff_comesTo hierarchical targetClass sourceClass
  | succ dimensions ih =>
      obtain ⟨element, element_eq, elementOf⟩ := targetOf
      obtain ⟨sourceElement, sourceElement_eq, sourceElementOf⟩ := sourceOf
      obtain ⟨node, node_eq, no_primitive⟩ := elementOf.exists_node
      rw [assignable_array_iff (element?_eq_some.mp element_eq)
        (element?_eq_some.mp sourceElement_eq) node_eq no_primitive,
        ih elementOf sourceElementOf, or_iff_right_iff_imp]
      rintro rfl
      obtain rfl := Option.some.inj (element_eq.symm.trans sourceElement_eq)
      exact elementOf.unique sourceElementOf ▸ .refl elementOf.isClass

end Graph

namespace Handle

/-- Where names tell the classes apart, subtyping between classes, and between arrays of classes
with equally many dimensions, is transitive; and it is antisymmetric if moreover no class comes back
to itself. -/
theorem subtyping_trans_antisymm {handle : Handle} {mode : Mode}
    (hierarchical : handle.env.toGraph.Hierarchical) :
    (∀ dimensions target middle source first second third,
      handle.env.toGraph.IsArrayOf dimensions target first →
      handle.env.toGraph.IsArrayOf dimensions middle second →
      handle.env.toGraph.IsArrayOf dimensions source third →
      (handle.ask (.tryAssignable target middle mode)).1.answer = .ok (.truth true) →
      (handle.ask (.tryAssignable middle source mode)).1.answer = .ok (.truth true) →
      (handle.ask (.tryAssignable target source mode)).1.answer ≠ .ok (.truth false)) ∧
    (handle.env.toGraph.Acyclic → ∀ first second, handle.env.toGraph.IsClass first →
      handle.env.toGraph.IsClass second →
      (handle.ask (.tryAssignable first second mode)).1.answer = .ok (.truth true) →
      (handle.ask (.tryAssignable second first mode)).1.answer = .ok (.truth true) →
      first = second) := by
  constructor
  · intro dimensions target middle source first second third targetOf middleOf sourceOf
      targetMiddle middleSource denied
    have secondFirst := (Graph.assignable_iff_comesTo_of_arrays hierarchical targetOf middleOf).mp
      ((assignable_iff_of_tryAssignable targetMiddle).mpr rfl)
    have thirdSecond := (Graph.assignable_iff_comesTo_of_arrays hierarchical middleOf sourceOf).mp
      ((assignable_iff_of_tryAssignable middleSource).mpr rfl)
    have thirdFirst := Graph.ComesTo.trans middleOf.isClass thirdSecond secondFirst
    have assignable : handle.env.toGraph.Assignable mode target source :=
      (Graph.assignable_iff_comesTo_of_arrays hierarchical targetOf sourceOf).mpr thirdFirst
    exact Bool.false_ne_true ((assignable_iff_of_tryAssignable denied).mp assignable)
  · intro acyclic first second firstClass secondClass forth back
    have secondFirst := (Graph.assignable_iff_comesTo hierarchical firstClass secondClass).mp
      ((assignable_iff_of_tryAssignable forth).mpr rfl)
    have firstSecond := (Graph.assignable_iff_comesTo hierarchical secondClass firstClass).mp
      ((assignable_iff_of_tryAssignable back).mpr rfl)
    exact Graph.ComesTo.antisymm acyclic firstClass secondClass firstSecond secondFirst

/-- A handle for a hierarchy `Names extends Base<Names>`, where `Base<T>` implements `Shape`, with
an array of each class. -/
def namedShapes : Handle where
  env := (Store.empty.run
    [.add (.classDecl { name := "p.Shape", kind := .interface }),
      .add (.typeVariable { name := "T" }),
      .add (.classDecl { name := "p.Base", interfaces := [⟨13⟩], typeParameters := [⟨14⟩] }),
      .internClass "p.Names", .add (.parameterized ⟨15⟩ [⟨16⟩]),
      .define ⟨16⟩ (.classDecl { name := "p.Names", supertype := some ⟨17⟩ }),
      .add (.array ⟨13⟩), .add (.array ⟨15⟩), .add (.array ⟨16⟩)]).environment

theorem subtyping_trans_antisymm_of_namedShapes :
    namedShapes.env.toGraph.Hierarchical ∧
      (namedShapes.ask (.tryAssignable ⟨18⟩ ⟨19⟩ .bound)).1.answer = .ok (.truth true) ∧
      (namedShapes.ask (.tryAssignable ⟨19⟩ ⟨20⟩ .bound)).1.answer = .ok (.truth true) ∧
      (namedShapes.ask (.tryAssignable ⟨18⟩ ⟨20⟩ .bound)).1.answer ≠ .ok (.truth false) ∧
      namedShapes.env.toGraph.Acyclic ∧
      (namedShapes.ask (.tryAssignable ⟨15⟩ ⟨15⟩ .bound)).1.answer = .ok (.truth true) ∧
      (⟨15⟩ : TypeId) = ⟨15⟩ := by
  have hierarchical : namedShapes.env.toGraph.Hierarchical := by decide +kernel
  have acyclic : namedShapes.env.toGraph.Acyclic := by decide +kernel
  have upper :
      (namedShapes.ask (.tryAssignable ⟨18⟩ ⟨19⟩ .bound)).1.answer = .ok (.truth true) := by
    decide +kernel
  have lower :
      (namedShapes.ask (.tryAssignable ⟨19⟩ ⟨20⟩ .bound)).1.answer = .ok (.truth true) := by
    decide +kernel
  have own :
      (namedShapes.ask (.tryAssignable ⟨15⟩ ⟨15⟩ .bound)).1.answer = .ok (.truth true) := by
    decide +kernel
  have base : namedShapes.env.toGraph.IsClass ⟨15⟩ := by decide +kernel
  have shapes : namedShapes.env.toGraph.IsArrayOf 1 ⟨18⟩ ⟨13⟩ :=
    ⟨⟨13⟩, by decide +kernel, by decide +kernel, rfl⟩
  have bases : namedShapes.env.toGraph.IsArrayOf 1 ⟨19⟩ ⟨15⟩ := ⟨⟨15⟩, by decide +kernel, base, rfl⟩
  have names : namedShapes.env.toGraph.IsArrayOf 1 ⟨20⟩ ⟨16⟩ :=
    ⟨⟨16⟩, by decide +kernel, by decide +kernel, rfl⟩
  obtain ⟨transitive, antisymmetric⟩ := @subtyping_trans_antisymm namedShapes .bound hierarchical
  exact ⟨hierarchical, upper, lower,
    transitive 1 ⟨18⟩ ⟨19⟩ ⟨20⟩ ⟨13⟩ ⟨15⟩ ⟨16⟩ shapes bases names upper lower, acyclic, own,
    antisymmetric acyclic ⟨15⟩ ⟨15⟩ base base own own⟩

end Handle
end JavaTypes
