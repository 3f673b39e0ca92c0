import JavaTypes.Proofs.Growth
import JavaTypes.Proofs.Naming
import Mathlib.Algebra.Group.Nat.Even

/-!
# Wildcards as type arguments

A wildcard without bounds accepts any argument, so that of a type whose arguments are such wildcards
only their number matters.  A wildcard with a bound hands the comparison on to its bound, the other
way round if the bound is a lower one: through levels of wildcards the innermost types are compared
in the order, and with the side left open, that the number of lower bounds tells.
-/

namespace JavaTypes

namespace TypeVariable

/-- A wildcard with one bound. -/
def within (variance : Variance) (bound : TypeId) : TypeVariable :=
  { name := wildcardName, variance, bounds := [bound] }

variable {assignable : TypeRelation} {mode : Mode} {bound target source : TypeId}

@[simp]
theorem isWildcard_within {variance : Variance} : (within variance bound).isWildcard = true := rfl

@[simp]
theorem admits_covariant : (within .covariant bound).Admits assignable mode target source ↔
    assignable mode target source :=
  Iff.rfl

@[simp]
theorem admits_contravariant : (within .contravariant bound).Admits assignable mode target source ↔
    assignable mode.dual source target :=
  Iff.rfl

end TypeVariable

namespace Graph

/-- Whether a type is a generic class applied to a wildcard with one bound. -/
def Applies (graph : Graph) (cls : TypeId) (variance : Variance) (bound id : TypeId) : Prop :=
  ∃ wildcard, graph.node id = some (.parameterized cls [wildcard]) ∧
    graph.node wildcard = some (.typeVariable (.within variance bound))

/-- Whether two types are built around two others, level by level from the inside: each level
applies the class to wildcards of one variance. -/
inductive Nested (graph : Graph) (cls : TypeId) :
    List Variance → TypeId → TypeId → TypeId → TypeId → Prop where
  | innermost (target source : TypeId) : Nested graph cls [] target source target source
  | level {variance : Variance} {levels : List Variance}
      {target source nextTarget nextSource outerTarget outerSource : TypeId}
      (target_applies : graph.Applies cls variance target nextTarget)
      (source_applies : graph.Applies cls variance source nextSource)
      (apart : nextTarget ≠ nextSource)
      (outside : Nested graph cls levels nextTarget nextSource outerTarget outerSource) :
      Nested graph cls (variance :: levels) target source outerTarget outerSource

variable {graph : Graph} {same assignable : TypeRelation} {mode : Mode}
  {target source base sourceBase cls bound offered outerTarget outerSource : TypeId}
  {arguments sourceArguments : List TypeId} {variance : Variance} {levels : List Variance}

theorem AcceptsAnything.argumentFits (accepts : graph.AcceptsAnything target) :
    graph.ArgumentFits same assignable mode target source := by
  obtain ⟨decl, node_eq, unbounded⟩ := accepts
  obtain ⟨wildcard, no_bounds⟩ := Bool.and_eq_true_iff.mp unbounded
  refine ⟨_, node_eq, ?_⟩
  dsimp only
  rw [if_pos wildcard, List.isEmpty_iff.mp no_bounds]
  exact fun bound listed => nomatch listed

theorem forall₂_argumentFits_iff
    (accepting : ∀ argument ∈ arguments, graph.AcceptsAnything argument) :
    List.Forall₂ (graph.ArgumentFits same assignable mode) arguments sourceArguments ↔
      arguments.length = sourceArguments.length := by
  rw [List.forall₂_iff_zip]
  exact and_iff_left fun listed => (accepting _ (List.of_mem_zip listed).1).argumentFits

theorem assignable_parameterized_iff
    (target_eq : graph.node target = some (.parameterized base arguments))
    (source_eq : graph.node source = some (.parameterized sourceBase sourceArguments)) :
    graph.Assignable mode target source ↔ target = source ∨
      graph.Assignable mode base sourceBase ∧
        List.Forall₂ (graph.ArgumentFits graph.Same graph.Assignable mode) arguments
          sourceArguments :=
  assignable_iff_fits target_eq rfl source_eq rfl nofun

/-- A class with type arguments fits where the class without them does, if there are as many
arguments as are asked for. -/
theorem assignable_iff_length_eq
    (target_eq : graph.node target = some (.parameterized base arguments))
    (isClass : graph.IsClass cls)
    (source_eq : graph.node source = some (.parameterized cls sourceArguments))
    (raw : graph.Assignable mode target cls) :
    graph.Assignable mode target source ↔ sourceArguments.length = arguments.length := by
  obtain ⟨decl, cls_eq⟩ := isClass
  obtain ⟨accepting, base_fits⟩ :=
    (assignable_raw_iff target_eq cls_eq rfl nofun nofun).mp raw
  rw [assignable_parameterized_iff target_eq source_eq, and_iff_right base_fits,
    forall₂_argumentFits_iff accepting, eq_comm (a := sourceArguments.length), or_iff_right_iff_imp]
  rintro rfl
  cases target_eq.symm.trans source_eq
  rfl

theorem assignable_self_of_isClass (isClass : graph.IsClass cls) :
    graph.Assignable mode cls cls := by
  obtain ⟨decl, node_eq⟩ := isClass
  exact (assignable_iff_fits node_eq rfl node_eq rfl nofun).mpr (Or.inl rfl)

/-- A wildcard with a bound takes what a wildcard of the same variance is bounded by. -/
theorem argumentFits_within_iff {wildcard argument : TypeId}
    (target_eq : graph.node wildcard = some (.typeVariable (.within variance bound)))
    (source_eq : graph.node argument = some (.typeVariable (.within variance offered))) :
    graph.ArgumentFits same assignable mode wildcard argument ↔
      (TypeVariable.within variance bound).Admits assignable mode bound offered := by
  simp only [ArgumentFits, target_eq, source_eq, TypeVariable.isWildcard_within,
    TypeVariable.offered?, Option.mem_def, Option.some.injEq, exists_eq_left', if_true]
  simp [TypeVariable.within]

/-- One level of wildcards hands the comparison on to their bounds. -/
theorem assignable_iff_admits (isClass : graph.IsClass cls)
    (target_applies : graph.Applies cls variance bound target)
    (source_applies : graph.Applies cls variance offered source) (apart : target ≠ source) :
    graph.Assignable mode target source ↔
      (TypeVariable.within variance bound).Admits graph.Assignable mode bound offered := by
  obtain ⟨wildcard, target_eq, wildcard_eq⟩ := target_applies
  obtain ⟨argument, source_eq, argument_eq⟩ := source_applies
  rw [assignable_parameterized_iff target_eq source_eq, or_iff_right apart,
    and_iff_right (assignable_self_of_isClass isClass), List.forall₂_cons,
    and_iff_left List.Forall₂.nil, argumentFits_within_iff wildcard_eq argument_eq]

/-- Types that are nested in wildcards compare as the innermost types do, the other way round if the
number of lower bounds is odd. -/
theorem Nested.assignable_iff
    (nested : graph.Nested cls levels target source outerTarget outerSource)
    (isClass : graph.IsClass cls) (bounded : .invariant ∉ levels) :
    graph.Assignable mode outerTarget outerSource ↔
      if Even (levels.count .contravariant) then graph.Assignable mode target source
      else graph.Assignable mode.dual source target := by
  induction nested with
  | innermost target source => simp
  | @level variance levels target source nextTarget nextSource outerTarget outerSource
      target_applies source_applies apart outside ih =>
      have inner_bounded : .invariant ∉ levels := mt (List.mem_cons_of_mem variance) bounded
      have forth : graph.Assignable mode nextTarget nextSource ↔ _ :=
        assignable_iff_admits isClass target_applies source_applies apart
      have back : graph.Assignable mode.dual nextSource nextTarget ↔ _ :=
        assignable_iff_admits isClass source_applies target_applies apart.symm
      rw [ih inner_bounded, forth, back]
      cases variance with
      | invariant => exact absurd List.mem_cons_self bounded
      | covariant =>
          have count_eq : (Variance.covariant :: levels).count .contravariant =
              levels.count .contravariant := List.count_cons_of_ne (by decide)
          rw [TypeVariable.admits_covariant, TypeVariable.admits_covariant, count_eq]
      | contravariant =>
          -- One more lower bound turns the order round, and the mode with it.
          rw [TypeVariable.admits_contravariant, TypeVariable.admits_contravariant,
            Mode.dual_dual, List.count_cons_self]
          by_cases even : Even (levels.count .contravariant)
          · rw [if_pos even, if_neg (mt Nat.even_add_one.mp (not_not.mpr even))]
          · rw [if_neg even, if_pos (Nat.even_add_one.mpr even)]

end Graph

namespace Store

/-- Adds a generic class applied to a wildcard with one bound. -/
def addApplied (store : Store) (cls : TypeId) (variance : Variance) (bound : TypeId) :
    TypeId × Store :=
  let (wildcard, grown) := store.addWildcard variance bound
  grown.addParameterized cls [wildcard]

/-- Adds two types around two others, level by level from the inside. -/
def nest (cls : TypeId) : List Variance → TypeId → TypeId → Store → (TypeId × TypeId) × Store
  | [], target, source, store => ((target, source), store)
  | variance :: levels, target, source, store =>
    let (nextTarget, withTarget) := store.addApplied cls variance target
    let (nextSource, withSource) := withTarget.addApplied cls variance source
    nest cls levels nextTarget nextSource withSource

variable {store next : Store} {cls id bound target source : TypeId} {variance : Variance}
  {levels : List Variance}

theorem GrowsTo.applies (grows : store.GrowsTo next)
    (applies : store.graph.Applies cls variance bound id) :
    next.graph.Applies cls variance bound id := by
  obtain ⟨wildcard, id_eq, wildcard_eq⟩ := applies
  obtain ⟨_, id_later⟩ := grows id _ id_eq
  obtain ⟨_, wildcard_later⟩ := grows wildcard _ wildcard_eq
  exact ⟨wildcard, id_later, wildcard_later⟩

theorem GrowsTo.isClass (grows : store.GrowsTo next) (isClass : store.graph.IsClass id) :
    next.graph.IsClass id := by
  obtain ⟨decl, node_eq⟩ := isClass
  obtain ⟨_, later⟩ := grows id _ node_eq
  exact ⟨_, later⟩

theorem growsTo_addApplied : store.GrowsTo (store.addApplied cls variance bound).2 :=
  (GrowsTo.add store (.typeVariable (.within variance bound))).trans
    (GrowsTo.add _ (.parameterized cls [store.nextId]))

theorem growsTo_nest : store.GrowsTo (store.nest cls levels target source).2 := by
  induction levels generalizing store target source with
  | nil => exact .refl store
  | cons variance levels ih => exact (growsTo_addApplied.trans growsTo_addApplied).trans ih

theorem raw_addApplied : (store.addApplied cls variance bound).1.raw = store.size + 1 := by
  simp [addApplied, addWildcard, addTypeVariable, addParameterized, add, push, nextId, size]

theorem size_addApplied : (store.addApplied cls variance bound).2.size = store.size + 2 := by
  simp [addApplied, addWildcard, addTypeVariable, addParameterized, add, push, size]

theorem applies_addApplied : (store.addApplied cls variance bound).2.graph.Applies cls variance
    bound (store.addApplied cls variance bound).1 := by
  refine ⟨store.nextId, (puts_push _).node?_self, ?_⟩
  have apart : store.nextId ≠ (store.push (.typeVariable (.within variance bound))).2.nextId := by
    simp [nextId, push, size]
  exact ((puts_push _).node?_of_ne apart).trans (puts_push _).node?_self

/-- What is nested in a store is nested in every store that grows from it. -/
theorem nested_nest : (store.nest cls levels target source).2.graph.Nested cls levels target source
    (store.nest cls levels target source).1.1 (store.nest cls levels target source).1.2 := by
  induction levels generalizing store target source with
  | nil => exact .innermost target source
  | cons variance levels ih =>
      let withTarget := (store.addApplied cls variance target).2
      let withSource := (withTarget.addApplied cls variance source).2
      have later : withSource.GrowsTo (store.nest cls (variance :: levels) target source).2 :=
        growsTo_nest
      refine .level ((growsTo_addApplied.trans later).applies applies_addApplied)
        (later.applies applies_addApplied) ?_ ih
      intro same
      have raw_eq := congrArg TypeId.raw same
      rw [raw_addApplied, raw_addApplied, size_addApplied] at raw_eq
      omega

end Store

namespace Handle

/-- Where a class without type arguments fits, which takes wildcards without bounds, the class with
type arguments fits exactly if there are as many of them, whatever they are. -/
theorem fits_iff_as_many {handle : Handle} {mode : Mode}
    {target source base cls : TypeId} {arguments sourceArguments : List TypeId}
    (target_eq : handle.env.toGraph.node target = some (.parameterized base arguments))
    (isClass : handle.env.toGraph.IsClass cls)
    (source_eq : handle.env.toGraph.node source = some (.parameterized cls sourceArguments))
    (raw : (handle.ask (.tryAssignable target cls mode)).1.answer = .ok (.truth true))
    {holds : Bool}
    (answered : (handle.ask (.tryAssignable target source mode)).1.answer = .ok (.truth holds)) :
    holds = true ↔ sourceArguments.length = arguments.length := by
  rw [← assignable_iff_of_tryAssignable answered]
  exact Graph.assignable_iff_length_eq target_eq isClass source_eq
    ((assignable_iff_of_tryAssignable raw).mpr rfl)

end Handle

namespace Store

/-- A store with a type `Row<?>` and a class `Table` that extends `Row`, the latter also with one
and with two type arguments. -/
def tableRows : Store :=
  empty.run
    [.add (.classDecl { name := "p.Row", kind := .interface }),
      .add (.typeVariable { name := "?" }), .add (.parameterized ⟨13⟩ [⟨14⟩]),
      .add (.classDecl { name := "p.Table", interfaces := [⟨13⟩] }),
      .add (.parameterized ⟨16⟩ [⟨13⟩]), .add (.parameterized ⟨16⟩ [⟨13⟩, ⟨16⟩])]

theorem target_of_tableRows :
    tableRows.graph.node ⟨15⟩ = some (.parameterized ⟨13⟩ [⟨14⟩]) :=
  rfl

theorem table_of_tableRows : tableRows.graph.IsClass ⟨16⟩ := ⟨_, rfl⟩

theorem pairs_of_tableRows :
    tableRows.graph.node ⟨18⟩ = some (.parameterized ⟨16⟩ [⟨13⟩, ⟨16⟩]) :=
  rfl

theorem answers_of_tableRows :
    let handle : Handle := { env := tableRows.environment }
    (handle.ask (.tryAssignable ⟨15⟩ ⟨16⟩ .bound)).1.answer = .ok (.truth true) ∧
      (handle.ask (.tryAssignable ⟨15⟩ ⟨17⟩ .bound)).1.answer = .ok (.truth true) ∧
      (handle.ask (.tryAssignable ⟨15⟩ ⟨18⟩ .bound)).1.answer = .ok (.truth false) := by
  decide +kernel

theorem fits_iff_as_many_of_tableRows :
    let handle : Handle := { env := tableRows.environment }
    let answer (source : TypeId) := (handle.ask (.tryAssignable ⟨15⟩ source .bound)).1.answer
    answer ⟨16⟩ = .ok (.truth true) ∧ answer ⟨17⟩ = .ok (.truth true) ∧
      answer ⟨18⟩ = .ok (.truth false) ∧
      (answer ⟨17⟩ = answer ⟨16⟩ ↔ [(⟨13⟩ : TypeId)].length = [(⟨14⟩ : TypeId)].length) ∧
      (answer ⟨18⟩ = answer ⟨16⟩ ↔ [(⟨13⟩ : TypeId), ⟨16⟩].length = [(⟨14⟩ : TypeId)].length) := by
  intro handle answer
  obtain ⟨raw, accepted, refused⟩ : answer ⟨16⟩ = .ok (.truth true) ∧
    answer ⟨17⟩ = .ok (.truth true) ∧ answer ⟨18⟩ = .ok (.truth false) := answers_of_tableRows
  have single_eq : tableRows.graph.node ⟨17⟩ = some (.parameterized ⟨16⟩ [⟨13⟩]) := rfl
  have single_iff :=
    Handle.fits_iff_as_many target_of_tableRows table_of_tableRows single_eq raw accepted
  have pairs_iff :=
    Handle.fits_iff_as_many target_of_tableRows table_of_tableRows pairs_of_tableRows raw refused
  refine ⟨raw, accepted, refused, ?_, ?_⟩
  · rw [accepted, raw]
    exact (iff_of_true rfl rfl).trans single_iff
  · rw [refused, raw]
    exact (iff_of_false nofun nofun).trans pairs_iff

/-- What a class without type arguments fits, the class with type arguments may not fit: there may
be more of them than are asked for. -/
theorem arguments_refused :
    ¬ ∀ (store : Store) (target base cls source : TypeId) (arguments offered : List TypeId)
      (mode : Mode), store.graph.node target = some (.parameterized base arguments) →
      (∀ argument ∈ arguments, store.graph.AcceptsAnything argument) →
      store.graph.IsClass cls →
      (Handle.ask { env := store.environment } (.tryAssignable target cls mode)).1.answer =
        .ok (.truth true) →
      (∀ argument ∈ offered, store.graph.node argument ≠ none) →
      store.graph.node source = some (.parameterized cls offered) →
      (Handle.ask { env := store.environment } (.tryAssignable target source mode)).1.answer ≠
        .ok (.truth false) := by
  intro always
  obtain ⟨raw, -, refused⟩ := answers_of_tableRows
  have accepting : ∀ argument ∈ [(⟨14⟩ : TypeId)], tableRows.graph.AcceptsAnything argument :=
    List.forall_mem_singleton.mpr ⟨_, rfl, rfl⟩
  have defined : ∀ argument ∈ [(⟨13⟩ : TypeId), ⟨16⟩], tableRows.graph.node argument ≠ none := by
    decide
  exact always tableRows ⟨15⟩ ⟨13⟩ ⟨16⟩ ⟨18⟩ _ _ .bound target_of_tableRows accepting
    table_of_tableRows raw defined pairs_of_tableRows refused

end Store

/-- Nested types are answered as the innermost ones are, or as these are the other way round. -/
theorem Handle.answer_of_nested {handle : Handle} {mode : Mode} {levels : List Variance}
    {cls target source outerTarget outerSource : TypeId} {outer inner : Bool}
    (nested : handle.env.toGraph.Nested cls levels target source outerTarget outerSource)
    (isClass : handle.env.toGraph.IsClass cls) (bounded : .invariant ∉ levels)
    (outer_answered :
      (handle.ask (.tryAssignable outerTarget outerSource mode)).1.answer = .ok (.truth outer))
    (inner_answered : (handle.ask (if Even (levels.count .contravariant)
      then .tryAssignable target source mode
      else .tryAssignable source target mode.dual)).1.answer = .ok (.truth inner)) :
    outer = inner := by
  rw [Bool.eq_iff_iff, ← assignable_iff_of_tryAssignable outer_answered,
    nested.assignable_iff isClass bounded]
  split at inner_answered
  · next even =>
      rw [if_pos even]
      exact assignable_iff_of_tryAssignable inner_answered
  · next odd =>
      rw [if_neg odd]
      exact assignable_iff_of_tryAssignable inner_answered

namespace Store

/-- Variance composes: types that are built around two others by levels of wildcards are answered as
those two are, the other way round and with the dual side open if the number of lower bounds is
odd. -/
theorem nested_answer_eq {store : Store} {limits : Limits} {mode : Mode} {levels : List Variance}
    {cls target source : TypeId} (isClass : store.graph.IsClass cls)
    (bounded : .invariant ∉ levels) {outer inner : Bool} :
    let nested := store.nest cls levels target source
    let handle : Handle := { env := nested.2.environment, limits }
    (handle.ask (.tryAssignable nested.1.1 nested.1.2 mode)).1.answer = .ok (.truth outer) →
    (handle.ask (if Even (levels.count .contravariant) then .tryAssignable target source mode
      else .tryAssignable source target mode.dual)).1.answer = .ok (.truth inner) →
    outer = inner := by
  intro nested handle
  exact Handle.answer_of_nested nested_nest (growsTo_nest.isClass isClass) bounded

/-- A store with a generic class `Box`, two classes of which one extends the other and a type
variable. -/
def boxedShapes : Store :=
  empty.run
    [.add (.classDecl { name := "p.Box" }), .add (.classDecl { name := "p.Shape" }),
      .add (.classDecl { name := "p.Circle", supertype := some ⟨14⟩ }),
      .add (.typeVariable { name := "T" })]

/-- The types are `Box<? extends Box<? super T>>` and `Box<? extends Box<? super Circle>>`. -/
theorem nested_answer_eq_of_boxedShapes :
    let levels : List Variance := [.contravariant, .covariant]
    let nested := boxedShapes.nest ⟨13⟩ levels ⟨16⟩ ⟨15⟩
    let handle : Handle := { env := nested.2.environment }
    let nestedAnswer := (handle.ask (.tryAssignable nested.1.1 nested.1.2 .infer)).1.answer
    let innerAnswer := (handle.ask (.tryAssignable ⟨15⟩ ⟨16⟩ .reverse)).1.answer
    boxedShapes.graph.IsClass ⟨13⟩ ∧ .invariant ∉ levels ∧ ¬ Even (levels.count .contravariant) ∧
      nestedAnswer = .ok (.truth true) ∧ innerAnswer = .ok (.truth true) ∧
      nestedAnswer = innerAnswer := by
  intro levels nested handle nestedAnswer innerAnswer
  have isClass : boxedShapes.graph.IsClass ⟨13⟩ := ⟨_, rfl⟩
  have bounded : .invariant ∉ levels := by decide
  have odd : ¬ Even (levels.count .contravariant) := by decide
  have answers : nestedAnswer = .ok (.truth true) ∧ innerAnswer = .ok (.truth true) := by
    decide +kernel
  obtain ⟨outer, inner⟩ := answers
  have same := Answer.ok_truth_congr (nested_answer_eq isClass bounded outer inner)
  exact ⟨isClass, bounded, odd, outer, inner, outer.trans (same.trans inner.symm)⟩

end Store
end JavaTypes
