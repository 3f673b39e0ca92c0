import JavaTypes.Proofs.Accuracy
import JavaTypes.Proofs.Naming
import JavaTypes.Proofs.NameSearch

/-!
# Type arguments against the hierarchy

A search for a name finds a parameterized type by its text wherever a walk comes to it.  Whether the
type may be assigned goes by its arguments before the hierarchy: a class fits only wildcards without
bounds, whatever parameterized types it extends, and a parameterized type offers its own arguments.
What a walk comes to settles no more than the base, which always fits then.
-/

namespace JavaTypes

namespace Goal

variable {α : Type} {ask : Question → Run} {goal : α → Goal} {items : LazyList α}
  {before after : List α} {item : α}

/-- Alternatives that hold have been refused up to the first that holds. -/
theorem refused_of_any (found : ((any (items.map goal)).tried ask).outcome = .ok true)
    (split : items.toList = before ++ item :: after)
    (unfound : ∀ earlier ∈ before, ((goal earlier).tried ask).outcome ≠ .ok true) :
    ∀ earlier ∈ before, ((goal earlier).tried ask).outcome = .ok false := by
  induction items generalizing before with
  | nil => simp [LazyList.toList] at split
  | cons head rest ih =>
      cases before with
      | nil => exact List.forall_mem_nil _
      | cons first before =>
          obtain ⟨rfl, rest_split⟩ := List.cons_eq_cons.mp split
          obtain ⟨head_unfound, rest_unfound⟩ := List.forall_mem_cons.mp unfound
          rcases Run.outcome_followedBy_eq_ok.mp found with ⟨refused, later⟩ | ⟨here, -⟩
          · exact List.forall_mem_cons.mpr ⟨refused, ih () later rest_split rest_unfound⟩
          · exact absurd here head_unfound

/-- Alternatives hold if those before one that holds are decided. -/
theorem outcome_any_of_split (split : items.toList = before ++ item :: after)
    (decided : ∀ earlier ∈ before, ∃ holds, ((goal earlier).tried ask).outcome = .ok holds)
    (found : ((goal item).tried ask).outcome = .ok true) :
    ((any (items.map goal)).tried ask).outcome = .ok true := by
  induction items generalizing before with
  | nil => simp [LazyList.toList] at split
  | cons head rest ih =>
      refine Run.outcome_followedBy_eq_ok.mpr ?_
      cases before with
      | nil =>
          obtain ⟨rfl, -⟩ := List.cons_eq_cons.mp split
          exact Or.inr ⟨found, Bool.noConfusion⟩
      | cons first before =>
          obtain ⟨rfl, rest_split⟩ := List.cons_eq_cons.mp split
          obtain ⟨⟨holds, head_decided⟩, rest_decided⟩ := List.forall_mem_cons.mp decided
          cases holds with
          | true => exact Or.inr ⟨head_decided, Bool.noConfusion⟩
          | false => exact Or.inl ⟨head_decided, ih () rest_split rest_decided⟩

theorem outcome_all_of_each {goals : List Goal}
    (each : ∀ goal ∈ goals, (goal.tried ask).outcome = .ok true) :
    ((all goals).tried ask).outcome = .ok true := by
  induction goals with
  | nil => rfl
  | cons goal goals ih =>
      obtain ⟨first, rest⟩ := List.forall_mem_cons.mp each
      exact Run.outcome_followedBy_eq_ok.mpr (Or.inl ⟨first, ih rest⟩)

end Goal

namespace Graph

/-- Whether a walk comes to a type before any other that goes by a name. -/
def ComesFirst (graph : Graph) (name : String) (source found : TypeId) : Prop :=
  ∃ before after, (graph.walk graph.ancestors source).toList = before ++ found :: after ∧
    ∀ id ∈ before, ¬ graph.GoesBy name id

variable {graph : Graph} {id target source base sourceBase : TypeId} {name other : String}
  {mode : Mode} {arguments offered : List TypeId} {decl : ClassDecl} {sourceNode : Node}
  {opened : List Question}

theorem ComesFirst.path (first : graph.ComesFirst name source target) :
    Relation.ReflTransGen graph.TakesNamesOf source target := by
  obtain ⟨before, after, split, -⟩ := first
  exact mem_walk_iff_takesNamesOf.mp (split ▸ by simp)

theorem isCalled_of_base (target_eq : graph.node target = some (.parameterized base arguments))
    (base_eq : graph.node base = some (.classDecl decl)) : graph.IsCalled decl.name target :=
  ⟨decl.name, by simp [qualifiedName, classBehind, target_eq, classDecl?_eq_some base_eq], rfl⟩

/-- A class may be assigned from what leads to the class with type arguments. -/
theorem assignable_of_path (target_eq : graph.node target = some (.parameterized base arguments))
    (base_eq : graph.node base = some (.classDecl decl))
    (source_eq : graph.node source = some sourceNode) (nominal : sourceNode.isNominal = true)
    (path : Relation.ReflTransGen graph.TakesNamesOf source target) :
    graph.Assignable mode base source := by
  have bears : graph.BearsName graph.Assignable decl.name target :=
    ⟨_, target_eq, Or.inr (isCalled_of_base target_eq base_eq)⟩
  have named : decl.name ∈ graph.qualifiedName base := by
    simp [qualifiedName, classBehind, base_eq]
  have fits : graph.FitsClass graph.Assignable mode base source sourceNode := by
    rw [← leads_ancestors] at path
    cases sourceNode with
    | classDecl _ | parameterized _ _ | annotationUse _ _ =>
        exact ⟨decl.name, named, target, path, bears⟩
    | _ => cases nominal
  have searched := Node.isSearched_of_isNominal nominal
  exact (assignable_iff_fits base_eq rfl source_eq (Node.isDeterminate_of_isSearched searched)
    (Node.ne_null_of_isSearched searched)).mpr (Or.inr fits)

/-- A parameterized type leads further only where its base is a class, and as that class does. -/
theorem path_of_base (source_eq : graph.node source = some (.parameterized sourceBase offered))
    (ne : target ≠ source) (path : Relation.ReflTransGen graph.TakesNamesOf source target) :
    graph.IsClass sourceBase ∧ Relation.ReflTransGen graph.TakesNamesOf sourceBase target := by
  rcases path.cases_head with same | ⟨next, takes, rest⟩
  · exact absurd same.symm ne
  · rw [← leads_ancestors] at takes rest ⊢
    have isClass : graph.IsClass sourceBase := by
      obtain ⟨references, branching, listed⟩ := takes
      rw [ancestors, source_eq] at branching
      obtain rfl := Option.some.inj branching
      rw [isClass_iff]
      cases behind : graph.classDecl? sourceBase with
      | some decl => rfl
      | none => simp [supertypes, supertype, interfaces, classBehind, source_eq, behind] at listed
    have stands : graph.declared? source = some sourceBase := by rw [declared?, source_eq]
    rw [Leads, ancestors_of_declared? stands isClass] at takes
    exact ⟨isClass, .head takes rest⟩

/-- Whether type arguments accept a nominal type: those that it offers itself are compared one by
one, and a type that offers none is accepted by wildcards without bounds. -/
def ArgumentsAccept (graph : Graph) (mode : Mode) (arguments : List TypeId) : Node → Prop
  | .parameterized _ offered =>
      List.Forall₂ (graph.ArgumentFits graph.Same graph.Assignable mode) arguments offered
  | _ => ∀ argument ∈ arguments, graph.AcceptsAnything argument

/-- From what leads to a parameterized type that type may be assigned exactly if its arguments
accept the source: the base always fits. -/
theorem assignable_iff_argumentsAccept
    (target_eq : graph.node target = some (.parameterized base arguments))
    (base_eq : graph.node base = some (.classDecl decl))
    (source_eq : graph.node source = some sourceNode) (nominal : sourceNode.isNominal = true)
    (path : Relation.ReflTransGen graph.TakesNamesOf source target) :
    graph.Assignable mode target source ↔
      target = source ∨ graph.ArgumentsAccept mode arguments sourceNode := by
  have fits_iff (ne : target ≠ source) :
      graph.FitsParameterized graph.Same graph.Assignable mode base arguments source sourceNode ↔
        graph.ArgumentsAccept mode arguments sourceNode := by
    cases sourceNode with
    | classDecl _ | annotationUse _ _ =>
        exact and_iff_left (assignable_of_path target_eq base_eq source_eq nominal path)
    | parameterized sourceBase offered =>
        obtain ⟨⟨sourceDecl, sourceBase_eq⟩, path_base⟩ := path_of_base source_eq ne path
        exact and_iff_right (assignable_of_path target_eq base_eq sourceBase_eq rfl path_base)
    | _ => cases nominal
  have searched := Node.isSearched_of_isNominal nominal
  have rule : graph.Assignable mode target source ↔
      target = source ∨ graph.FitsParameterized graph.Same graph.Assignable mode base arguments
        source sourceNode :=
    assignable_iff_fits target_eq rfl source_eq (Node.isDeterminate_of_isSearched searched)
      (Node.ne_null_of_isSearched searched)
  rw [rule]
  by_cases same : target = source
  · exact iff_of_true (Or.inl same) (Or.inl same)
  · rw [fits_iff same]

/-- What is refused a name when it is looked at is known. -/
theorem known_of_refused {ask : Question → Run}
    (refused : ((graph.bearsName name id).tried ask).outcome = .ok false) : graph.Known id := by
  rw [bearsName, withNode] at refused
  cases node_eq : graph.node id with
  | none =>
      rw [node_eq] at refused
      cases refused
  | some node =>
      refine ⟨node, node_eq, fun nominal => ?_⟩
      have called (refused : ((graph.withName id fun own =>
          .decided (ClassName.same name own)).tried ask).outcome = .ok false) :
          (graph.classBehind id).isSome = true := by
        rw [withName] at refused
        split at refused
        · next own named =>
            obtain ⟨decl, behind, -⟩ := Option.map_eq_some_iff.mp named
            rw [behind]
            rfl
        · cases refused
      rw [node_eq] at refused
      cases node with
      | classDecl decl => exact called refused
      | annotationUse type values => exact called refused
      | parameterized base arguments =>
          dsimp only at refused
          split at refused
          · cases refused
          · exact called refused
      | _ => cases nominal

theorem outcome_acceptsAnything {argument : TypeId} {ask : Question → Run}
    (accepts : graph.AcceptsAnything argument) :
    ((graph.acceptsAnything argument).tried ask).outcome = .ok true := by
  obtain ⟨decl, node_eq, unbounded⟩ := accepts
  rw [acceptsAnything, withNode, node_eq]
  exact congrArg Except.ok unbounded

/-- A nominal type without type arguments is compared with all arguments of a parameterized type,
and then with its base. -/
theorem step_of_raw (target_eq : graph.node target = some (.parameterized base arguments))
    (source_eq : graph.node source = some sourceNode) (nominal : sourceNode.isNominal = true)
    (raw : ∀ sourceBase offered, sourceNode ≠ .parameterized sourceBase offered) :
    graph.step ⟨.assignableTo, target, source, mode⟩ =
      .reduced (.both (.all (arguments.map graph.acceptsAnything))
        (.compare ⟨.assignableTo, base, source, mode⟩)) := by
  have ne : target ≠ source := by
    rintro rfl
    exact raw base arguments (Option.some.inj (source_eq.symm.trans target_eq))
  cases sourceNode with
  | parameterized sourceBase offered => exact absurd rfl (raw sourceBase offered)
  | classDecl _ | annotationUse _ _ =>
      refine step_eq_reduced_iff.mpr ⟨_, _, target_eq, source_eq, ?_, rfl⟩
      cases mode <;>
        simp [atOnce?, Question.assignableAtOnce?, Mode.infers, Node.isWildcard,
          Node.isNamedVariable, ne]
  | _ => cases nominal

section

variable (knows : graph.KnowsPrimitives)

include knows

/-- A type that is known is found to bear a name or not to bear it. -/
theorem outcome_bearsName (apart : ∀ question ∈ opened, ¬ graph.ComparesPrimitives question)
    (known : graph.Known id) (name : String) :
    ∃ holds, ((graph.bearsName name id).tried (graph.run opened)).outcome = .ok holds ∧
      (holds = true ↔ graph.GoesBy name id) := by
  rw [← bearsName_iff_goesBy knows apart, ← holds_bearsName]
  cases decided : ((graph.bearsName name id).tried (graph.run opened)).outcome with
  | error cause =>
      have lacks := lacksWithin_of_bearsName knows apart decided
      exact absurd lacks (not_lacksWithin_of_known fun other same => same ▸ known)
  | ok holds =>
      refine ⟨holds, rfl, ?_⟩
      cases holds with
      | true => exact iff_of_true rfl (Goal.holds_of_tried (fun _ answered => answered) decided)
      | false =>
          have sound (question : Question) (no : (graph.run opened question).outcome = .ok false) :
              ¬ (graph.run opened question).outcome = .ok true := by simp [no]
          exact iff_of_false Bool.false_ne_true (Goal.not_holds_of_tried sound decided)

/-- Where a search for one name has come to a type, a search for another name that the type goes by
succeeds too: it meets nothing before the type but what has been looked at. -/
theorem fitsName_of_comesFirst (apart : ∀ question ∈ opened, ¬ graph.ComparesPrimitives question)
    (named : ((graph.fitsName name source).tried (graph.run [])).outcome = .ok true)
    (first : graph.ComesFirst name source target) (known : graph.Known target)
    (goes : graph.GoesBy other target) :
    ((graph.fitsName other source).tried (graph.run opened)).outcome = .ok true := by
  obtain ⟨before, after, split, none_before⟩ := first
  have refused : ∀ earlier ∈ before,
      ((graph.bearsName name earlier).tried (graph.run [])).outcome = .ok false := by
    refine Goal.refused_of_any named split fun earlier member found => none_before earlier member ?_
    exact (bearsName_iff_goesBy knows (List.forall_mem_nil _)).mp
      (holds_bearsName.mp (Goal.holds_of_tried (fun _ answered => answered) found))
  refine Goal.outcome_any_of_split split (fun earlier member => ?_) ?_
  · obtain ⟨holds, decided, -⟩ :=
      outcome_bearsName knows apart (known_of_refused (refused earlier member)) other
    exact ⟨holds, decided⟩
  · obtain ⟨holds, decided, holds_iff⟩ := outcome_bearsName knows apart known other
    rwa [holds_iff.mpr goes] at decided

/-- Where a search for the text of a parameterized type has come to the type, its base may be
assigned while the question about the type is open. -/
theorem run_of_base (target_eq : graph.node target = some (.parameterized base arguments))
    (base_eq : graph.node base = some (.classDecl decl))
    (source_eq : graph.node source = some sourceNode) (nominal : sourceNode.isNominal = true)
    (named : ((graph.fitsName name source).tried (graph.run [])).outcome = .ok true)
    (first : graph.ComesFirst name source target) :
    (graph.run [⟨.assignableTo, target, source, mode⟩]
      ⟨.assignableTo, base, source, mode⟩).outcome = .ok true := by
  let asked : Question := ⟨.assignableTo, target, source, mode⟩
  let baseAsked : Question := ⟨.assignableTo, base, source, mode⟩
  by_cases same : base = source
  · subst same
    rw [run_of_settled (step_of_same base_eq rfl)]
  · have ne : base ≠ target := by
      rintro rfl
      cases base_eq.symm.trans target_eq
    have fresh : baseAsked ∉ [asked] := fun known =>
      ne (congrArg Question.target (List.mem_singleton.mp known))
    have apart : ∀ question ∈ [baseAsked, asked], ¬ graph.ComparesPrimitives question := by
      rw [List.forall_mem_cons, List.forall_mem_singleton]
      constructor <;> rintro ⟨primitive, -⟩
      · simp [baseAsked, primitive?, base_eq] at primitive
      · simp [asked, primitive?, target_eq] at primitive
    have known : graph.Known target :=
      ⟨_, target_eq, fun _ => by simp [classBehind, target_eq, classDecl?_eq_some base_eq]⟩
    rw [run_of_searched base_eq source_eq (Node.isSearched_of_isNominal nominal) same fresh]
    exact fitsName_of_comesFirst knows apart named first known
      (Or.inl (isCalled_of_base target_eq base_eq))

/-- Wildcards without bounds accept what offers no type arguments, if a search for the text of the
type has come to the type itself. -/
theorem run_of_wildcards (target_eq : graph.node target = some (.parameterized base arguments))
    (base_eq : graph.node base = some (.classDecl decl))
    (source_eq : graph.node source = some sourceNode) (nominal : sourceNode.isNominal = true)
    (raw : ∀ sourceBase offered, sourceNode ≠ .parameterized sourceBase offered)
    (accepting : ∀ argument ∈ arguments, graph.AcceptsAnything argument)
    (named : ((graph.fitsName name source).tried (graph.run [])).outcome = .ok true)
    (first : graph.ComesFirst name source target) :
    (graph.run [] ⟨.assignableTo, target, source, mode⟩).outcome = .ok true := by
  have accepted : ((Goal.all (arguments.map graph.acceptsAnything)).tried
      (graph.run [⟨.assignableTo, target, source, mode⟩])).outcome = .ok true := by
    refine Goal.outcome_all_of_each fun goal member => ?_
    obtain ⟨argument, listed, rfl⟩ := List.mem_map.mp member
    exact outcome_acceptsAnything (accepting argument listed)
  have base_fits : (graph.run [⟨.assignableTo, target, source, mode⟩]
      ⟨.assignableTo, base, source, mode⟩).outcome = .ok true :=
    run_of_base knows target_eq base_eq source_eq nominal named first
  rw [run_of_fresh (step_of_raw target_eq source_eq nominal raw) List.not_mem_nil]
  exact Run.outcome_followedBy_eq_ok.mpr (Or.inl ⟨accepted, base_fits⟩)

end

theorem tried_of_prove {limits : Limits} {goal : Goal} {holds : Bool}
    (decided : (graph.prove limits goal {}).1 = .ok holds) :
    (goal.tried (graph.run [])).outcome = .ok holds := by
  have outcome_eq : (graph.prove limits goal {}).1 =
      limits.outcome 0 (goal.tried (graph.run [])) :=
    (Goal.solve_follows (fun question _ => graph.ask_follows_of_tracks limits question) goal
      Guard.tracks_nil).outcome
  rw [outcome_eq, Limits.outcome] at decided
  split at decided
  · cases decided
  · exact decided

end Graph

namespace Handle

theorem evaluate_of_accepted {handle : Handle} {query : Query}
    (refuses : query.refusal = .truth false)
    (accepted : (handle.ask query).1.answer = .ok (.truth true)) :
    (query.evaluate handle.env handle.limits).outcome = .ok (.truth true) := by
  rw [ask] at accepted
  split at accepted
  · rw [refuses] at accepted
    cases accepted
  · exact accepted

end Handle

namespace Store

/-- If a nominal type has the text of a parameterized type as a name because its walk comes to that
type, it may be assigned to it exactly if it is that type or the type arguments accept it.  The type
itself is answered at once; wildcards without bounds accept what offers no arguments, unless a limit
is exceeded. -/
theorem assignable_iff_of_named {store : Store} (reached : store.Reached) {limits : Limits}
    {target base source : TypeId} {arguments : List TypeId} {sourceNode : Node} {mode : Mode}
    (target_eq : store.graph.node target = some (.parameterized base arguments))
    (isClass : store.graph.IsClass base) (source_eq : store.graph.node source = some sourceNode)
    (nominal : sourceNode.isNominal = true)
    (named : (Handle.ask { env := store.environment, limits }
      (.assignableToName (store.graph.render target) source)).1.answer = .ok (.truth true))
    (first : store.graph.ComesFirst (store.graph.render target) source target) :
    let answer := (Handle.ask { env := store.environment, limits }
      (.tryAssignable target source mode)).1.answer
    (∀ holds, answer = .ok (.truth holds) →
      (holds = true ↔
        target = source ∨ store.graph.ArgumentsAccept mode arguments sourceNode)) ∧
    (target = source → answer = .ok (.truth true)) ∧
    ((∀ argument ∈ arguments, store.graph.AcceptsAnything argument) →
      (∀ sourceBase offered, sourceNode ≠ .parameterized sourceBase offered) →
      answer = .ok (.truth true) ∨ ∃ cause, limits.Names cause ∧ answer = .error cause) := by
  intro answer
  let handle : Handle := { env := store.environment, limits }
  have knows : store.graph.KnowsPrimitives := reached.coherent.knowsPrimitives
  obtain ⟨decl, base_eq⟩ := isClass
  have reply_eq : answer = handle.tryAnswer ⟨.assignableTo, target, source, mode⟩ := rfl
  refine ⟨fun holds answered => ?_, ?_, fun accepting raw => ?_⟩
  · rw [← Graph.assignable_iff_argumentsAccept target_eq base_eq source_eq nominal first.path,
      Graph.assignable_iff_valid]
    exact (handle.valid_iff_of_tryAnswer (reply_eq ▸ answered)).symm
  · rintro rfl
    have settled : handle.env.toGraph.step ⟨.assignableTo, target, target, mode⟩ =
        .settled (.ok true) := Graph.step_of_same target_eq rfl
    rw [reply_eq, Handle.tryAnswer_eq, Graph.run_of_settled settled]
    rfl
  · have found : ((store.graph.fitsName (store.graph.render target) source).tried
        (store.graph.run [])).outcome = .ok true :=
      Graph.tried_of_prove ((Evaluation.outcome_ofSearch_eq_ok fun _ _ => Answer.truth.inj).mp
        (Handle.evaluate_of_accepted rfl named))
    exact handle.tryAnswer_of_run (Graph.run_of_wildcards knows target_eq base_eq
      source_eq nominal raw accepting found first)

/-- A store with a generic interface and a class that implements the interface for itself. -/
def comparableStrings : Store :=
  empty.run
    [.add (.classDecl { name := "java.lang.Comparable", kind := .interface }), .reserve,
      .add (.parameterized ⟨13⟩ [⟨14⟩]),
      .define ⟨14⟩ (.classDecl { name := "java.lang.String", interfaces := [⟨15⟩] })]

theorem string_of_comparableStrings : comparableStrings.graph.node ⟨14⟩ =
    some (.classDecl { name := "java.lang.String", interfaces := [⟨15⟩] }) := by
  decide

theorem target_of_comparableStrings :
    comparableStrings.graph.node ⟨15⟩ = some (.parameterized ⟨13⟩ [⟨14⟩]) := by
  decide

theorem base_of_comparableStrings : comparableStrings.graph.IsClass ⟨13⟩ := by decide

theorem named_of_comparableStrings :
    (Handle.ask { env := comparableStrings.environment }
      (.assignableToName (comparableStrings.graph.render ⟨15⟩) ⟨14⟩)).1.answer =
      .ok (.truth true) := by
  decide +kernel

theorem comesFirst_of_comparableStrings :
    comparableStrings.graph.ComesFirst (comparableStrings.graph.render ⟨15⟩) ⟨14⟩ ⟨15⟩ := by
  refine ⟨[⟨14⟩], [], by decide +kernel, ?_⟩
  rw [List.forall_mem_singleton]
  have text_eq :
      comparableStrings.graph.render ⟨15⟩ = "java.lang.Comparable<java.lang.String>" := by
    decide
  rintro (⟨own, named, name_eq⟩ | ⟨base, arguments, other_eq, -⟩ | ⟨kind, other_eq, -⟩)
  · obtain rfl : "java.lang.String" = own := by
      simpa [Graph.qualifiedName, Graph.classBehind, string_of_comparableStrings] using named
    rw [text_eq] at name_eq
    revert name_eq
    decide +kernel
  · cases string_of_comparableStrings.symm.trans other_eq
  · cases string_of_comparableStrings.symm.trans other_eq

theorem assignable_iff_of_named_comparableStrings :
    let handle : Handle := { env := comparableStrings.environment }
    comparableStrings.Reached ∧
      (handle.ask (.assignableToName (comparableStrings.graph.render ⟨15⟩) ⟨14⟩)).1.answer =
        .ok (.truth true) ∧
      (handle.ask (.tryAssignable ⟨15⟩ ⟨14⟩ .bound)).1.answer = .ok (.truth false) ∧
      ¬ comparableStrings.graph.AcceptsAnything ⟨14⟩ := by
  intro handle
  have reached : comparableStrings.Reached := ⟨empty, _, .empty, rfl⟩
  have refused : (handle.ask (.tryAssignable ⟨15⟩ ⟨14⟩ .bound)).1.answer = .ok (.truth false) := by
    rfl
  have settles := (assignable_iff_of_named reached target_of_comparableStrings
    base_of_comparableStrings string_of_comparableStrings rfl named_of_comparableStrings
    comesFirst_of_comparableStrings).1 false refused
  refine ⟨reached, named_of_comparableStrings, refused, fun accepts => ?_⟩
  exact Bool.false_ne_true (settles.mpr (Or.inr (List.forall_mem_singleton.mpr accepts)))

/-- What has the text of a parameterized type as a name because its walk comes to that type may not
always be assigned to it. -/
theorem named_not_assignable :
    ¬ ∀ (store : Store) (target base source : TypeId) (arguments : List TypeId) (node : Node),
      store.Reached → store.graph.NamesPlainly →
      store.graph.node target = some (.parameterized base arguments) → store.graph.IsClass base →
      ¬ "...".toList <:+: (store.graph.render target).toList →
      store.graph.node source = some node →
      ((∃ decl, node = .classDecl decl) ∨
        ∃ sourceBase offered, node = .parameterized sourceBase offered) →
      (Handle.ask { env := store.environment }
        (.assignableToName (store.graph.render target) source)).1.answer = .ok (.truth true) →
      store.graph.ComesFirst (store.graph.render target) source target →
      (Handle.ask { env := store.environment } (.assignable target source .bound)).1.answer =
        .ok (.truth true) := by
  intro always
  have held := always comparableStrings ⟨15⟩ ⟨13⟩ ⟨14⟩ [⟨14⟩] _ ⟨empty, _, .empty, rfl⟩ (by decide)
    target_of_comparableStrings base_of_comparableStrings (by decide) string_of_comparableStrings
    (Or.inl ⟨_, rfl⟩) named_of_comparableStrings comesFirst_of_comparableStrings
  have refused : (Handle.ask { env := comparableStrings.environment }
      (.assignable ⟨15⟩ ⟨14⟩ .bound)).1.answer = .ok (.truth false) := by rfl
  cases refused.symm.trans held

end Store
end JavaTypes
