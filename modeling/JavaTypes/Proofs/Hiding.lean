import JavaTypes.Proofs.Assignment
import JavaTypes.Proofs.Overriding

/-!
# Hidden candidates

The search for an overridden method ends at the first method of the name and the parameters that it
meets, whether or not that may be overridden.  A private or static method, or one that is not
visible, therefore hides every method behind it: a method that could be overridden is found only if
no other match comes before it.
-/

namespace JavaTypes

theorem find?_flatMap_congr {α β γ δ : Type} {xs : List α} {f : α → List β} {g : α → List γ}
    {p : β → Bool} {q : γ → Bool} {first : β → δ} {second : γ → δ}
    (each : ∀ x ∈ xs, ((f x).find? p).map first = ((g x).find? q).map second) :
    ((xs.flatMap f).find? p).map first = ((xs.flatMap g).find? q).map second := by
  induction xs with
  | nil => rfl
  | cons x xs ih =>
      obtain ⟨head, tail⟩ := List.forall_mem_cons.mp each
      rw [List.flatMap_cons, List.flatMap_cons, List.find?_append, List.find?_append,
        Option.map_or, Option.map_or, head, ih tail]

namespace Graph

variable {graph : Graph} {type through method : TypeId}

/-- The methods that a type and its supertypes list, each after the type that it is seen through, in
the order in which they are considered. -/
def listed (graph : Graph) (type : TypeId) : List (TypeId × TypeId) :=
  (graph.walk graph.declaredSupertypes type).toList.flatMap fun through =>
    (graph.methods through).map fun method => (through, method)

/-- The methods above a type: those of each of its supertypes in turn. -/
def listedAbove (graph : Graph) (type : TypeId) : List (TypeId × TypeId) :=
  (graph.supertypes type).flatMap graph.listed

theorem mem_listed_iff :
    (through, method) ∈ graph.listed type ↔
      Relation.ReflTransGen graph.Extends type through ∧ method ∈ graph.methods through := by
  simp [listed, mem_walk_declaredSupertypes_iff]

/-- The methods above a type are those that its proper supertypes list. -/
theorem mem_listedAbove_iff :
    (through, method) ∈ graph.listedAbove type ↔
      Relation.TransGen graph.Extends type through ∧ method ∈ graph.methods through := by
  simp only [listedAbove, List.mem_flatMap, mem_listed_iff, mem_supertypes,
    Relation.TransGen.head'_iff, ← and_assoc, exists_and_right]

open scoped Classical in
theorem find?_candidates {answer : Question → Prop} {name : String} {arguments : List TypeId} :
    ((graph.candidates name arguments type).toList.find?
        fun entry => entry.2.Holds answer).map Prod.fst =
      ((graph.listed type).find? fun seen =>
        (graph.hasSignature seen.1 name arguments seen.2).Holds answer).map Prod.snd := by
  rw [candidates, LazyList.toList_flatMap, listed]
  refine find?_flatMap_congr fun through _ => ?_
  rw [candidatesAt]
  split
  · next undefined =>
      have fails : ¬ (Goal.stuck (.danglingType through)).Holds answer := id
      simp [methods_of_undefined undefined, fails]
  · simp [List.find?_map, Function.comp_def]

theorem holds_hasSignature_iff {answer : Question → Prop} {name : String}
    {arguments : List TypeId} :
    (graph.hasSignature through name arguments method).Holds answer ↔
      ∃ decl, graph.node method = some (.methodDecl decl) ∧ decl.name = name ∧
        (graph.typeParameters decl.declaringType).length = (graph.typeParameters through).length ∧
        List.Forall₂ (fun parameter argument =>
          Relation.ofType.among answer .bound parameter argument ∨
            Substitutes (graph.typeParameters decl.declaringType) (graph.typeParameters through)
              parameter argument) decl.parameterTypes arguments := by
  constructor
  · intro holds
    obtain ⟨node, node_eq, own⟩ := holds_withNode.mp holds
    cases node with
    | methodDecl decl => exact ⟨decl, node_eq, (holds_hasSignature_of_methodDecl node_eq).mp holds⟩
    | _ => exact absurd own Bool.false_ne_true
  · rintro ⟨decl, node_eq, matching⟩
    exact (holds_hasSignature_of_methodDecl node_eq).mpr matching

end Graph

namespace Environment

variable {env : Environment} {overrider : MethodDecl} {method candidate : TypeId}

/-- Whether a method has, seen through a type that lists it, the name and the parameters of another
one, which takes as many type parameters as that type supplies. -/
def Matches (env : Environment) (alike : TypeId → TypeId → Prop) (overrider : MethodDecl)
    (seen : TypeId × TypeId) : Prop :=
  ∃ overridden, env.node seen.2 = some (.methodDecl overridden) ∧
    overridden.name = overrider.name ∧
    (env.typeParameters overridden.declaringType).length = (env.typeParameters seen.1).length ∧
    List.Forall₂ (fun parameter argument => alike parameter argument ∨
      Graph.Substitutes (env.typeParameters overridden.declaringType) (env.typeParameters seen.1)
        parameter argument) overridden.parameterTypes overrider.parameterTypes

/-- Whether a method may be overridden by another one: it is neither private nor static, and it is
public or declared in the same known package. -/
def MayOverride (env : Environment) (overrider : MethodDecl) (method : TypeId) : Prop :=
  ∃ overridden, env.node method = some (.methodDecl overridden) ∧
    overridden.flags.contains .privateFlag = false ∧
    overridden.flags.contains .staticFlag = false ∧
    (overridden.flags.contains .publicFlag = true ∨
      ∃ package, env.package overridden.declaringType = some package ∧
        env.package overrider.declaringType = some package)

/-- Whether a method that is listed above the declaring type of another one is the first match
there, where the methods listed behind it are given. -/
def FirstMatch (env : Environment) (alike : TypeId → TypeId → Prop) (overrider : MethodDecl)
    (seen : TypeId × TypeId) (later : List (TypeId × TypeId)) : Prop :=
  ∃ earlier, env.listedAbove overrider.declaringType = earlier ++ seen :: later ∧
    env.Matches alike overrider seen ∧ ∀ other ∈ earlier, ¬ env.Matches alike overrider other

open scoped Classical in
theorem find?_eq_some_iff_firstMatch {alike : TypeId → TypeId → Prop} {seen : TypeId × TypeId} :
    (env.listedAbove overrider.declaringType).find?
        (fun seen => env.Matches alike overrider seen) = some seen ↔
      ∃ later, env.FirstMatch alike overrider seen later := by
  rw [List.find?_eq_some_iff_append]
  constructor
  · rintro ⟨matching, earlier, later, above_eq, unmatched⟩
    exact ⟨later, earlier, above_eq, by simpa using matching, by simpa using unmatched⟩
  · rintro ⟨later, earlier, above_eq, matching, unmatched⟩
    exact ⟨by simpa using matching, earlier, later, above_eq, by simpa using unmatched⟩

theorem FirstMatch.unique {alike : TypeId → TypeId → Prop} {first second : TypeId × TypeId}
    {firstLater secondLater : List (TypeId × TypeId)}
    (firstMatch : env.FirstMatch alike overrider first firstLater)
    (secondMatch : env.FirstMatch alike overrider second secondLater) : first = second := by
  classical
  have first_eq := find?_eq_some_iff_firstMatch.mpr ⟨firstLater, firstMatch⟩
  have second_eq := find?_eq_some_iff_firstMatch.mpr ⟨secondLater, secondMatch⟩
  exact Option.some.inj (first_eq.symm.trans second_eq)

/-- Where some method matches, one is the first match, and it is that method or comes before it. -/
theorem exists_firstMatch {alike : TypeId → TypeId → Prop} {seen : TypeId × TypeId}
    (member : seen ∈ env.listedAbove overrider.declaringType)
    (matching : env.Matches alike overrider seen) :
    ∃ first later, env.FirstMatch alike overrider first later ∧ (seen = first ∨ seen ∈ later) := by
  classical
  have found : (env.listedAbove overrider.declaringType).find?
      (fun seen => env.Matches alike overrider seen) ≠ none := fun nothing =>
    List.find?_eq_none.mp nothing seen member (decide_eq_true matching)
  obtain ⟨first, first_eq⟩ := Option.ne_none_iff_exists'.mp found
  obtain ⟨later, earlier, above_eq, matches_first, unmatched⟩ :=
    find?_eq_some_iff_firstMatch.mp first_eq
  refine ⟨first, later, ⟨earlier, above_eq, matches_first, unmatched⟩, ?_⟩
  rw [above_eq, List.mem_append, List.mem_cons] at member
  exact member.resolve_left fun before => unmatched seen before matching

theorem accept_eq_some_iff {found : Option TypeId} :
    env.accept overrider.declaringType found = some candidate ↔
      found = some candidate ∧ env.MayOverride overrider candidate := by
  rw [accept, Option.filter_eq_some_iff]
  refine and_congr_right fun _ => ?_
  cases node_eq : env.node candidate with
  | none => simp [MayOverride, node_eq]
  | some node =>
      cases node with
      | methodDecl overridden => simp [MayOverride, node_eq, overridable_iff]
      | _ => simp [MayOverride, node_eq]

end Environment

namespace Handle

variable {handle : Handle} {method : TypeId} {overrider : MethodDecl} {found : Option TypeId}

/-- Whether a handle says that two types are the same where no type variable is open. -/
def Alike (handle : Handle) (target source : TypeId) : Prop :=
  (handle.ask (.tryOfType target source .bound)).1.answer = .ok (.truth true)

open scoped Classical in
/-- What is found comes down to the first match above the declaring type. -/
theorem overriddenMethod_eq_accept
    (present : handle.env.node method = some (.methodDecl overrider))
    (answered : ((Query.overriddenMethod method).evaluate handle.env handle.limits).outcome =
      .ok (.method found)) :
    found = handle.env.accept overrider.declaringType
      (((handle.env.listedAbove overrider.declaringType).find?
        fun seen => handle.env.Matches handle.Alike overrider seen).map Prod.snd) := by
  have ended : (handle.env.overriddenMethod handle.limits method {}).1 = .ok found :=
    (Evaluation.outcome_ofSearch_eq_ok fun _ _ => Answer.method.inj).mp answered
  rw [Environment.overriddenMethod, present] at ended
  dsimp only at ended
  split at ended
  · next candidate after searched =>
      obtain rfl : handle.env.accept overrider.declaringType candidate = found :=
        Except.ok.inj ended
      have first := find?_of_firstHolding (congrArg Prod.fst searched)
      rw [LazyList.toList_join, find?_flatMap_congr fun super _ => Graph.find?_candidates] at first
      simp only [Graph.holds_hasSignature_iff] at first
      exact congrArg (handle.env.accept _) first.symm
  · cases ended

theorem overriddenMethod_eq_some_iff
    (present : handle.env.node method = some (.methodDecl overrider))
    (answered : ((Query.overriddenMethod method).evaluate handle.env handle.limits).outcome =
      .ok (.method found)) {candidate : TypeId} :
    found = some candidate ↔
      ∃ through later, handle.env.FirstMatch handle.Alike overrider (through, candidate) later ∧
        handle.env.MayOverride overrider candidate := by
  rw [overriddenMethod_eq_accept present answered, Environment.accept_eq_some_iff,
    Option.map_eq_some_iff]
  constructor
  · rintro ⟨⟨⟨through, own⟩, first, rfl⟩, may⟩
    obtain ⟨later, first⟩ := Environment.find?_eq_some_iff_firstMatch.mp first
    exact ⟨through, later, first, may⟩
  · rintro ⟨through, later, first, may⟩
    have first_eq := Environment.find?_eq_some_iff_firstMatch.mpr ⟨later, first⟩
    exact ⟨⟨(through, candidate), first_eq, rfl⟩, may⟩

/-- Nothing is found exactly if the first match may not be overridden. -/
theorem overriddenMethod_eq_none_iff
    (present : handle.env.node method = some (.methodDecl overrider))
    (answered : ((Query.overriddenMethod method).evaluate handle.env handle.limits).outcome =
      .ok (.method found)) {first : TypeId × TypeId} {later : List (TypeId × TypeId)}
    (firstMatch : handle.env.FirstMatch handle.Alike overrider first later) :
    found = none ↔ ¬ handle.env.MayOverride overrider first.2 := by
  constructor
  · intro nothing allowed
    have accepted :=
      (overriddenMethod_eq_some_iff present answered).mpr ⟨_, later, firstMatch, allowed⟩
    cases nothing.symm.trans accepted
  · intro barred
    refine Option.eq_none_iff_forall_ne_some.mpr fun other other_found => ?_
    obtain ⟨_, _, otherMatch, allowed⟩ :=
      (overriddenMethod_eq_some_iff present answered).mp other_found
    obtain rfl := congrArg Prod.snd (firstMatch.unique otherMatch)
    exact barred allowed

/-- The method found is the first match above the declaring type, if that may be overridden, and
nothing otherwise.  So where some proper supertype lists a match that may be overridden, nothing is
found exactly if a match that may not be overridden hides it. -/
theorem overriddenMethod_eq_firstMatch
    (present : handle.env.node method = some (.methodDecl overrider))
    (answered : ((Query.overriddenMethod method).evaluate handle.env handle.limits).outcome =
      .ok (.method found)) :
    (∀ candidate, found = some candidate ↔
      ∃ through later, handle.env.FirstMatch handle.Alike overrider (through, candidate) later ∧
        handle.env.MayOverride overrider candidate) ∧
    ∀ through candidate,
      Relation.TransGen handle.env.toGraph.Extends overrider.declaringType through →
      candidate ∈ handle.env.methods through →
      handle.env.Matches handle.Alike overrider (through, candidate) →
      handle.env.MayOverride overrider candidate →
      (found = none ↔
        ∃ hider later, handle.env.FirstMatch handle.Alike overrider hider later ∧
          (through, candidate) ∈ later ∧ ¬ handle.env.MayOverride overrider hider.2) := by
  refine ⟨fun candidate => overriddenMethod_eq_some_iff present answered, ?_⟩
  intro through candidate path listed matching may
  constructor
  · intro nothing
    obtain ⟨hider, later, hides, same | behind⟩ :=
      Environment.exists_firstMatch (Graph.mem_listedAbove_iff.mpr ⟨path, listed⟩) matching
    · subst same
      exact absurd may ((overriddenMethod_eq_none_iff present answered hides).mp nothing)
    · exact ⟨hider, later, hides, behind,
        (overriddenMethod_eq_none_iff present answered hides).mp nothing⟩
  · rintro ⟨hider, later, hides, -, barred⟩
    exact (overriddenMethod_eq_none_iff present answered hides).mpr barred

/-- A handle for a class `Job` that declares a method `run`, extends a class with a private one and
implements an interface with a public abstract one. -/
def hiddenTask : Handle where
  env := (Store.empty.run
    [.add (.classDecl { name := "p.Base" }),
      .addMethod
        { name := "run", declaringType := ⟨13⟩, returnType := Store.primitive .void
          flags := .privateFlag },
      .add (.classDecl { name := "p.Task", kind := .interface }),
      .addMethod
        { name := "run", declaringType := ⟨15⟩, returnType := Store.primitive .void
          flags := .publicFlag ∪ .abstractFlag },
      .add (.classDecl { name := "p.Job", supertype := some ⟨13⟩, interfaces := [⟨15⟩] }),
      .addMethod
        { name := "run", declaringType := ⟨17⟩, returnType := Store.primitive .void
          flags := .publicFlag }]).environment

/-- The method of the class. -/
def jobRun : MethodDecl :=
  { name := "run", declaringType := ⟨17⟩, returnType := Store.primitive .void
    flags := .publicFlag }

theorem jobRun_overrides :
    hiddenTask.env.node ⟨18⟩ = some (.methodDecl jobRun) ∧
      Relation.TransGen hiddenTask.env.toGraph.Extends ⟨17⟩ ⟨15⟩ ∧
      ⟨16⟩ ∈ hiddenTask.env.methods ⟨15⟩ ∧
      hiddenTask.env.Matches hiddenTask.Alike jobRun (⟨15⟩, ⟨16⟩) ∧
      hiddenTask.env.MayOverride jobRun ⟨16⟩ := by
  have extended : hiddenTask.env.toGraph.Extends ⟨17⟩ ⟨15⟩ := Or.inr (by decide)
  have task_eq : hiddenTask.env.node ⟨16⟩ =
      some (.methodDecl
        { jobRun with declaringType := ⟨15⟩, flags := .publicFlag ∪ .abstractFlag }) :=
    rfl
  exact ⟨rfl, .single extended, by decide, ⟨_, task_eq, rfl, rfl, .nil⟩,
    ⟨_, task_eq, by decide, by decide, Or.inl (by decide)⟩⟩

theorem nothing_overridden_of_hiddenTask :
    ((Query.overriddenMethod ⟨18⟩).evaluate hiddenTask.env hiddenTask.limits).outcome =
      .ok (.method none) := by decide +kernel

/-- The method that the class declares finds nothing, since the private method of its superclass
hides the public one of its interface. -/
theorem overriddenMethod_eq_firstMatch_of_hiddenTask :
    (∀ candidate, ¬ ∃ through later,
      hiddenTask.env.FirstMatch hiddenTask.Alike jobRun (through, candidate) later ∧
        hiddenTask.env.MayOverride jobRun candidate) ∧
      ∃ hider later, hiddenTask.env.FirstMatch hiddenTask.Alike jobRun hider later ∧
        (⟨15⟩, ⟨16⟩) ∈ later ∧ ¬ hiddenTask.env.MayOverride jobRun hider.2 := by
  obtain ⟨present, path, listed, matching, may⟩ := jobRun_overrides
  obtain ⟨first, hidden⟩ :=
    overriddenMethod_eq_firstMatch present nothing_overridden_of_hiddenTask
  refine ⟨fun candidate exists_first => ?_, (hidden _ _ path listed matching may).mp rfl⟩
  cases (first candidate).mpr exists_first

/-- So a method that may be overridden and that matches is not always found. -/
theorem overridden_match_not_found :
    ∃ method overrider through candidate,
      hiddenTask.env.node method = some (.methodDecl overrider) ∧
      Relation.TransGen hiddenTask.env.toGraph.Extends overrider.declaringType through ∧
      candidate ∈ hiddenTask.env.methods through ∧
      hiddenTask.env.Matches hiddenTask.Alike overrider (through, candidate) ∧
      hiddenTask.env.MayOverride overrider candidate ∧
      ((Query.overriddenMethod method).evaluate hiddenTask.env hiddenTask.limits).outcome =
        .ok (.method none) := by
  obtain ⟨present, path, listed, matching, may⟩ := jobRun_overrides
  exact ⟨⟨18⟩, jobRun, ⟨15⟩, ⟨16⟩, present, path, listed, matching, may,
    nothing_overridden_of_hiddenTask⟩

end Handle
end JavaTypes
