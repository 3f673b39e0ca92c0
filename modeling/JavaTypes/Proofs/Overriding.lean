import JavaTypes.Proofs.Candidates
import JavaTypes.Proofs.FlagText
import JavaTypes.Proofs.Reachability
import JavaTypes.Proofs.Sameness

/-!
# Overridden methods

The method that a method is found to override is listed by a proper supertype of the declaring type,
has the same name and, seen through that supertype, the same parameters, and may be overridden from
there.
-/

namespace JavaTypes

namespace Flags

theorem intersects_iff {flags other : Flags} :
    flags.intersects other = true ↔ ∃ position, flags.Has position ∧ other.Has position := by
  have common : flags.intersects other = true ↔ (flags.bits &&& other.bits).toBitVec ≠ 0#64 := by
    rw [intersects, bne_iff_ne, ne_eq, ne_eq, ← UInt64.toBitVec_inj]
    rfl
  constructor
  · intro intersecting
    by_contra none
    refine common.mp intersecting (BitVec.eq_of_getLsbD_eq fun position _ => ?_)
    have apart : ¬ (flags.Has position ∧ other.Has position) := fun both => none ⟨position, both⟩
    simpa [Has] using apart
  · rintro ⟨position, set, setToo⟩
    refine common.mpr fun zero => ?_
    have bit := congrArg (BitVec.getLsbD · position) zero
    rw [Has] at set setToo
    simp [set, setToo] at bit

theorem intersects_union (flags left right : Flags) :
    flags.intersects (left ∪ right) = (flags.intersects left || flags.intersects right) := by
  rw [Bool.eq_iff_iff, Bool.or_eq_true]
  simp only [intersects_iff, has_union, and_or_left, exists_or]

/-- A named modifier is a single bit, so that to share it is to have it. -/
theorem intersects_named (flags : Flags) {name : String} {flag : Flags}
    (member : (name, flag) ∈ named) : flags.intersects flag = flags.contains flag := by
  rw [Bool.eq_iff_iff, intersects_iff]
  constructor
  · rintro ⟨position, set, inFlag⟩
    exact contains_of_has member inFlag set
  · intro contained
    obtain ⟨place, single⟩ := named_single (name, flag) member
    have bits_eq : flag.bits.toBitVec = BitVec.twoPow 64 place := single
    have set : flag.Has place := by simp [Has, bits_eq]
    exact ⟨place, has_of_contains contained set, set⟩

end Flags

namespace Graph

variable {graph : Graph} {answer : Question → Prop} {declared supplied arguments : List TypeId}
  {parameter argument type through method : TypeId} {name : String}

/-- Whether a type has another as its superclass or as one of its interfaces. -/
def Extends (graph : Graph) (type super : TypeId) : Prop :=
  graph.supertype type = some super ∨ super ∈ graph.interfaces type

/-- Whether a type that supplies arguments for declared type parameters puts an argument in the
place of a parameter.  Of several positions at which the parameter is declared the last counts. -/
def Substitutes (declared supplied : List TypeId) (parameter argument : TypeId) : Prop :=
  ∃ position : Nat, declared[position]? = some parameter ∧ supplied[position]? = some argument ∧
    ∀ later, position < later → declared[later]? ≠ some parameter

theorem mem_supertypes {super : TypeId} :
    super ∈ graph.supertypes type ↔ graph.Extends type super := by
  simp [supertypes, Extends]

theorem supertypes_of_undefined (undefined : graph.node type = none) :
    graph.supertypes type = [] := by
  simp [supertypes, supertype, interfaces, classBehind, undefined]

theorem methods_of_undefined (undefined : graph.node type = none) : graph.methods type = [] := by
  simp [methods, classBehind, undefined]

theorem getD_declaredSupertypes :
    (graph.declaredSupertypes type).getD [] = graph.supertypes type := by
  rw [declaredSupertypes]
  cases defined : graph.node type with
  | none => exact (supertypes_of_undefined defined).symm
  | some node => rfl

theorem leads_declaredSupertypes :
    Leads graph.declaredSupertypes = graph.Extends := by
  funext type super
  rw [eq_iff_iff, ← mem_supertypes, Leads, declaredSupertypes]
  cases present : graph.node type with
  | some node => simp
  | none => simp [supertypes_of_undefined present]

theorem mem_walk_declaredSupertypes_iff :
    through ∈ (graph.walk graph.declaredSupertypes type).toList ↔
      Relation.ReflTransGen graph.Extends type through := by
  rw [mem_walk_iff declaredSupertypes_defined, leads_declaredSupertypes]

theorem substituted?_cons (first supply : TypeId) :
    substituted? (first :: declared) (supply :: supplied) parameter =
      (substituted? declared supplied parameter).or
        (if parameter = first then some supply else none) := by
  simp only [substituted?, List.zip_cons_cons, List.reverse_cons, List.lookup_append,
    List.lookup_cons, List.lookup_nil]
  split <;> simp_all

theorem substituted?_eq_none_iff (length_eq : declared.length = supplied.length) :
    substituted? declared supplied parameter = none ↔ parameter ∉ declared := by
  induction declared generalizing supplied with
  | nil => simp [substituted?]
  | cons first declared ih =>
      cases supplied with
      | nil => simp at length_eq
      | cons supply supplied =>
          have shorter : declared.length = supplied.length := Nat.succ.inj length_eq
          rw [substituted?_cons, Option.or_eq_none_iff, ih shorter, List.mem_cons, not_or,
            and_comm]
          simp

theorem substitutes_cons {first supply : TypeId} :
    Substitutes (first :: declared) (supply :: supplied) parameter argument ↔
      Substitutes declared supplied parameter argument ∨
        parameter ∉ declared ∧ first = parameter ∧ supply = argument := by
  constructor
  · rintro ⟨position, declares, supplies, last⟩
    cases position with
    | zero =>
        refine Or.inr ⟨fun member => ?_, by simpa using declares, by simpa using supplies⟩
        obtain ⟨later, again⟩ := List.getElem?_of_mem member
        exact last (later + 1) (Nat.succ_pos later) again
    | succ position =>
        exact Or.inl ⟨position, declares, supplies, fun later less =>
          last (later + 1) (Nat.succ_lt_succ less)⟩
  · rintro (⟨position, declares, supplies, last⟩ | ⟨absent, rfl, rfl⟩)
    · refine ⟨position + 1, declares, supplies, fun later less => ?_⟩
      cases later with
      | zero => exact absurd less (Nat.not_lt_zero _)
      | succ later => exact last later (Nat.lt_of_succ_lt_succ less)
    · refine ⟨0, rfl, rfl, fun later less again => ?_⟩
      cases later with
      | zero => exact absurd less (Nat.lt_irrefl 0)
      | succ later => exact absent (List.mem_of_getElem? again)

theorem substituted?_eq_some_iff (length_eq : declared.length = supplied.length) :
    substituted? declared supplied parameter = some argument ↔
      Substitutes declared supplied parameter argument := by
  induction declared generalizing supplied with
  | nil => simp [substituted?, Substitutes]
  | cons first declared ih =>
      cases supplied with
      | nil => simp at length_eq
      | cons supply supplied =>
          have shorter : declared.length = supplied.length := Nat.succ.inj length_eq
          rw [substituted?_cons, Option.or_eq_some_iff, ih shorter,
            substituted?_eq_none_iff shorter, substitutes_cons, Option.ite_none_right_eq_some,
            Option.some_inj, @eq_comm _ parameter]

theorem holds_takes (length_eq : declared.length = supplied.length) :
    (takes declared supplied parameter argument).Holds answer ↔
      Relation.ofType.among answer .bound parameter argument ∨
        Substitutes declared supplied parameter argument := by
  refine or_congr_right ?_
  rw [← substituted?_eq_some_iff length_eq]
  exact decide_eq_true_iff

theorem holds_hasSignature_of_methodDecl {decl : MethodDecl}
    (present : graph.node method = some (.methodDecl decl)) :
    (graph.hasSignature through name arguments method).Holds answer ↔
      decl.name = name ∧
        (graph.typeParameters decl.declaringType).length = (graph.typeParameters through).length ∧
        List.Forall₂ (fun parameter argument =>
          Relation.ofType.among answer .bound parameter argument ∨
            Substitutes (graph.typeParameters decl.declaringType) (graph.typeParameters through)
              parameter argument) decl.parameterTypes arguments := by
  rw [hasSignature, withNode, present]
  dsimp only
  by_cases counts_eq :
      (graph.typeParameters decl.declaringType).length = (graph.typeParameters through).length
  · simp only [if_pos counts_eq, ← holds_takes counts_eq, ← Goal.holds_zipWith,
      and_iff_right counts_eq, ← and_assoc]
    split
    · next alike => exact (and_iff_right alike).symm
    · next different => exact iff_of_false Bool.false_ne_true fun alike => different alike.1
  · simp only [if_neg counts_eq, ite_self]
    exact iff_of_false Bool.false_ne_true fun alike => counts_eq alike.2.1

/-- The candidates on a type and its supertypes whose goal holds are the methods that one of them
lists and that have, seen through it, the name and parameters looked for. -/
theorem holds_candidates :
    (∃ goal, (method, goal) ∈ (graph.candidates name arguments type).toList ∧ goal.Holds answer) ↔
      ∃ through, Relation.ReflTransGen graph.Extends type through ∧
        method ∈ graph.methods through ∧
        (graph.hasSignature through name arguments method).Holds answer := by
  have listed {through : TypeId} {goal : Goal} :
      (method, goal) ∈ graph.candidatesAt name arguments through ∧ goal.Holds answer ↔
        (method ∈ graph.methods through ∧
          graph.hasSignature through name arguments method = goal) ∧ goal.Holds answer := by
    rw [candidatesAt]
    cases present : graph.node through with
    | none =>
        have stuck : goal = .stuck (.danglingType through) → ¬ goal.Holds answer := by
          rintro rfl
          exact id
        simpa [methods_of_undefined present] using fun _ => stuck
    | some node => simp
  simp only [candidates, LazyList.toList_flatMap, List.mem_flatMap, mem_walk_declaredSupertypes_iff]
  constructor
  · rintro ⟨goal, ⟨through, path, member⟩, holds⟩
    obtain ⟨⟨method_mem, rfl⟩, holds⟩ := listed.mp ⟨member, holds⟩
    exact ⟨through, path, method_mem, holds⟩
  · rintro ⟨through, path, method_mem, holds⟩
    exact ⟨_, ⟨through, path, (listed.mpr ⟨⟨method_mem, rfl⟩, holds⟩).1⟩, holds⟩

end Graph

namespace Environment

variable {env : Environment} {limits : Limits} {method found : TypeId}

theorem overridable_iff {decl : MethodDecl} {overrider : TypeId} :
    env.overridable decl overrider = true ↔
      decl.flags.contains .privateFlag = false ∧ decl.flags.contains .staticFlag = false ∧
        (decl.flags.contains .publicFlag = true ∨
          ∃ package, env.package decl.declaringType = some package ∧
            env.package overrider = some package) := by
  have private_named : ("PRIVATE", Flags.privateFlag) ∈ Flags.named := by simp [Flags.named]
  have static_named : ("STATIC", Flags.staticFlag) ∈ Flags.named := by simp [Flags.named]
  rw [overridable, Bool.and_eq_true, Bool.not_eq_true', Flags.intersects_union,
    Flags.intersects_named _ private_named, Flags.intersects_named _ static_named,
    Bool.or_eq_false_iff, and_assoc, Bool.or_eq_true]
  refine and_congr_right' (and_congr_right' (or_congr_right ?_))
  cases env.package decl.declaringType with
  | none => simp
  | some own =>
      cases env.package overrider with
      | none => simp
      | some other => simpa using @eq_comm _ own other

/-- What an overridden method is found by: the search through the candidates of the supertypes, and
a look at the method found. -/
theorem overriddenMethod_eq_some {guard : Guard}
    (answered : (env.overriddenMethod limits method guard).1 = .ok (some found)) :
    ∃ overrider overridden, env.node method = some (.methodDecl overrider) ∧
      env.node found = some (.methodDecl overridden) ∧
      env.overridable overridden overrider.declaringType = true ∧
      (Goal.firstHolding (env.toGraph.ask limits)
        (LazyList.join (env.toGraph.candidates overrider.name overrider.parameterTypes)
          (env.supertypes overrider.declaringType)) guard).1 = .ok (some found) := by
  rw [overriddenMethod] at answered
  split at answered
  · cases answered
  · next overrider present =>
      dsimp only at answered
      split at answered
      · next candidate after ended =>
          have accepted : env.accept overrider.declaringType candidate = some found :=
            Except.ok.inj answered
          rw [accept, Option.filter_eq_some_iff] at accepted
          obtain ⟨rfl, fits⟩ := accepted
          split at fits
          · next overridden isMethod =>
              exact ⟨overrider, overridden, present, isMethod, fits, congrArg Prod.fst ended⟩
          · cases fits
      · cases answered
  · cases answered

/-- What it takes for a method to override one that a type lists: the type is a proper supertype of
the class that declares the overriding method, the overridden one has its name and, with what the
type puts in the place of type parameters, its parameters, and may be overridden from there. -/
structure Overrides (env : Environment) (alike : TypeId → TypeId → Prop)
    (overrider overridden : MethodDecl) (through : TypeId) : Prop where
  above : Relation.TransGen env.toGraph.Extends overrider.declaringType through
  name_eq : overridden.name = overrider.name
  arity_eq : overridden.parameterTypes.length = overrider.parameterTypes.length
  parameters : List.Forall₂ (fun parameter argument => alike parameter argument ∨
    Graph.Substitutes (env.typeParameters overridden.declaringType) (env.typeParameters through)
      parameter argument) overridden.parameterTypes overrider.parameterTypes
  not_private : overridden.flags.contains .privateFlag = false
  not_static : overridden.flags.contains .staticFlag = false
  visible : overridden.flags.contains .publicFlag = true ∨
    ∃ package, env.package overridden.declaringType = some package ∧
      env.package overrider.declaringType = some package

end Environment

namespace Handle

theorem ask_overriddenMethod_iff {handle : Handle} {method found : TypeId} :
    (handle.ask (.overriddenMethod method)).1.answer = .ok (.method (some found)) ↔
      (handle.env.overriddenMethod handle.limits method {}).1 = .ok (some found) := by
  simp only [ask, Query.evaluate, Evaluation.ofSearch, Query.recordedAs?]
  cases (handle.env.overriddenMethod handle.limits method {}).1 with
  | ok answer => simp [Except.map]
  | error cause => simp [Except.map, Query.refusal]

/-- A method that a handle finds to be overridden is one: some proper supertype of the declaring
type lists it, and the method asked about overrides it there.  This holds whatever the environment
knows about packages. -/
theorem overrides_of_overriddenMethod {handle : Handle} {method found : TypeId}
    (answered :
      (handle.ask (.overriddenMethod method)).1.answer = .ok (.method (some found))) :
    ∃ overrider overridden through, handle.env.node method = some (.methodDecl overrider) ∧
      handle.env.node found = some (.methodDecl overridden) ∧
      found ∈ handle.env.methods through ∧
      handle.env.Overrides
        (fun target source =>
          (handle.ask (.tryOfType target source .bound)).1.answer = .ok (.truth true))
        overrider overridden through := by
  obtain ⟨overrider, overridden, overrider_eq, overridden_eq, overridable, ended⟩ :=
    Environment.overriddenMethod_eq_some (ask_overriddenMethod_iff.mp answered)
  obtain ⟨goal, goal_mem, holds⟩ := holds_of_firstHolding ended
  rw [LazyList.toList_join, List.mem_flatMap] at goal_mem
  obtain ⟨super, super_mem, candidate_mem⟩ := goal_mem
  obtain ⟨through, path, listed, signed⟩ :=
    Graph.holds_candidates.mp ⟨goal, candidate_mem, holds⟩
  obtain ⟨name_eq, -, parameters⟩ :=
    (Graph.holds_hasSignature_of_methodDecl overridden_eq).mp signed
  obtain ⟨not_private, not_static, visible⟩ := Environment.overridable_iff.mp overridable
  have above := Relation.TransGen.head' (Graph.mem_supertypes.mp super_mem) path
  exact ⟨overrider, overridden, through, overrider_eq, overridden_eq, listed,
    ⟨above, name_eq, parameters.length_eq, parameters, not_private, not_static, visible⟩⟩

/-- A handle that knows no packages, for a class of names that implements an interface
`Box<String>`.  The interface lists a method `add(E)` and extends `Box<String>` in its turn. -/
def boxedNames : Handle where
  env := (Store.empty.run
    [.add (.classDecl
        { name := "p.Box", kind := .interface, typeParameters := [⟨14⟩], interfaces := [⟨17⟩] }),
      .add (.typeVariable { name := "E" }),
      .addMethod
        { name := "add", declaringType := ⟨13⟩, returnType := Store.primitive .void
          parameterTypes := [⟨14⟩], flags := .publicFlag },
      .add (.classDecl { name := ClassName.string }),
      .add (.parameterized ⟨13⟩ [⟨16⟩]),
      .add (.classDecl { name := "q.Names", interfaces := [⟨17⟩] }),
      .addMethod
        { name := "add", declaringType := ⟨18⟩, returnType := Store.primitive .void
          parameterTypes := [⟨16⟩] }]).environment.withoutPackages

theorem overrides_of_boxedNames :
    (boxedNames.ask (.overriddenMethod ⟨19⟩)).1.answer = .ok (.method (some ⟨15⟩)) ∧
      ∃ overrider overridden through, boxedNames.env.node ⟨19⟩ = some (.methodDecl overrider) ∧
        boxedNames.env.node ⟨15⟩ = some (.methodDecl overridden) ∧
        ⟨15⟩ ∈ boxedNames.env.methods through ∧
        boxedNames.env.Overrides
          (fun target source =>
            (boxedNames.ask (.tryOfType target source .bound)).1.answer = .ok (.truth true))
          overrider overridden through :=
  ⟨by decide +kernel, overrides_of_overriddenMethod (by decide +kernel)⟩

end Handle
end JavaTypes
