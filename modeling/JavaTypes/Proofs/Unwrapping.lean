import JavaTypes.Handle
import JavaTypes.Proofs.Chains
import JavaTypes.Proofs.Reachability
import JavaTypes.Store.Operation

/-!
# What a type comes down to

A variable is unwrapped to its type, a method to its result and an array to its element, and so on
until something else is reached.  Whether a type is of a named class is decided by what its chain of
unwrappings ends at, however long the chain is; a chain that runs in circles names no class.
-/

namespace JavaTypes

namespace Goal

variable {α : Type} {ask : Question → Search Bool} {goal : α → Goal}
  {outcome : α → Except Indeterminate Bool} {items : LazyList α} {item : α} {guard : Guard}

/-- Alternatives all of which are refused are refused. -/
theorem solve_any_of_refused
    (each : ∀ item guard, (goal item).solve ask guard = (outcome item, guard))
    (refused : ∀ item ∈ items.toList, outcome item = .ok false) :
    (any (items.map goal)).solve ask guard = (.ok false, guard) := by
  induction items with
  | nil => rfl
  | cons head rest ih =>
      obtain ⟨head_refused, rest_refused⟩ := List.forall_mem_cons.mp refused
      rw [LazyList.map, any, solve, each, head_refused]
      exact ih () rest_refused

/-- One alternative decides if all others are refused, wherever and however often it comes. -/
theorem solve_any_of_only
    (each : ∀ item guard, (goal item).solve ask guard = (outcome item, guard))
    (member : item ∈ items.toList)
    (others : ∀ other ∈ items.toList, other ≠ item → outcome other = .ok false) :
    (any (items.map goal)).solve ask guard = (outcome item, guard) := by
  induction items with
  | nil => cases member
  | cons head rest ih =>
      obtain ⟨head_other, rest_others⟩ := List.forall_mem_cons.mp others
      rw [LazyList.map, any, solve, each]
      by_cases here : head = item
      · subst here
        cases answer : outcome head with
        | error cause => rfl
        | ok holds =>
            cases holds with
            | true => rfl
            | false =>
                refine solve_any_of_refused each fun other other_mem => ?_
                by_cases same : other = head
                · rw [same, answer]
                · exact rest_others other other_mem same
      · rw [head_other here]
        exact ih () ((List.mem_cons.mp member).resolve_left (Ne.symm here)) rest_others

end Goal

theorem Primitive.ofKeyword?_eq_some_iff {name : String} {kind : Primitive} :
    ofKeyword? name = some kind ↔ name = kind.keyword := by
  constructor
  · intro found
    have same := List.find?_some found
    exact (beq_iff_eq.mp same).symm
  · rintro rfl
    exact ofKeyword_keyword kind

namespace Graph

/-- The type of a variable, the result of a method and the element of an array. -/
def unwrapped? (graph : Graph) (id : TypeId) : Option TypeId :=
  match graph.node id with
  | some (.variableDecl decl) => some decl.type
  | some (.methodDecl decl) => some decl.returnType
  | some (.array element) => some element
  | _ => none

/-- Whether a type by itself is of a named class.  A nominal type goes by the name of the class
behind it, in either spelling, and a primitive by its keyword; nothing else has a name. -/
def classAnswer (graph : Graph) (name : String) (id : TypeId) : Except Indeterminate Bool :=
  match graph.node id with
  | none => .error (.danglingType id)
  | some (.primitive kind) => .ok (name == kind.keyword)
  | some node =>
    if node.isNominal then
      match graph.classBehind id with
      | some decl => .ok (ClassName.normalize decl.name == ClassName.normalize name)
      | none => .error (.notFullyQualified id)
    else .ok false

variable {graph : Graph} {id next start last : TypeId} {name : String} {length : Nat}
  {ask : Question → Search Bool} {guard : Guard}

theorem underlying_eq_map : graph.underlying id = (graph.unwrapped? id).map fun next => [next] := by
  rw [underlying, unwrapped?]
  cases graph.node id with
  | none => rfl
  | some node => cases node <;> rfl

theorem leads_underlying_iff :
    Leads graph.underlying id next ↔ graph.unwrapped? id = some next := by
  simp [Leads, underlying_eq_map, eq_comm]

theorem lt_size_of_unwrapped? (leads : graph.unwrapped? id ≠ none) : id.raw < graph.size := by
  by_contra outside
  exact leads (by rw [unwrapped?, graph.node_eq_none id (not_lt.mp outside)])

/-- The walk visits the members of the chain. -/
theorem mem_walk_underlying_iff :
    id ∈ (graph.walk graph.underlying start).toList ↔
      ∃ position, Chain.member? graph.unwrapped? start position = some id := by
  rw [mem_walk_iff underlying_defined]
  constructor
  · intro path
    induction path with
    | refl => exact ⟨0, rfl⟩
    | tail _ leads ih =>
        obtain ⟨position, found⟩ := ih
        exact ⟨position + 1, by rw [Chain.member?, found, Option.bind_some,
          leads_underlying_iff.mp leads]⟩
  · rintro ⟨position, found⟩
    induction position generalizing id with
    | zero =>
        obtain rfl := Option.some.inj found
        exact .refl
    | succ position ih =>
        obtain ⟨earlier, earlier_eq, next_eq⟩ := Option.bind_eq_some_iff.mp found
        exact (ih earlier_eq).tail (leads_underlying_iff.mpr next_eq)

theorem classAnswer_of_unwrapped? (leads : graph.unwrapped? id ≠ none) :
    graph.classAnswer name id = .ok false := by
  rw [unwrapped?] at leads
  rw [classAnswer]
  split at leads
  case h_4 => exact absurd rfl leads
  all_goals simp [*, Node.isNominal]

theorem solve_isNamedClass (name : String) (id : TypeId) (guard : Guard) :
    (graph.isNamedClass name id).solve ask guard = (graph.classAnswer name id, guard) := by
  rw [isNamedClass, withNode, classAnswer]
  cases graph.node id with
  | none => rfl
  | some node =>
      cases node with
      | classDecl _ | parameterized _ _ | annotationUse _ _ =>
          simp only [withName, qualifiedName, Node.isNominal, if_true]
          cases graph.classBehind id with
          | none => rfl
          | some decl => simp only [Option.map_some, Goal.solve, ClassName.same_eq_beq]
      | primitive kind =>
          have keyword_eq : decide (Primitive.ofKeyword? name = some kind) =
              (name == kind.keyword) := by
            rw [Bool.eq_iff_iff, decide_eq_true_iff, Primitive.ofKeyword?_eq_some_iff, beq_iff_eq]
          exact congrArg (fun holds => (Except.ok holds, guard)) keyword_eq
      | _ => rfl

/-- A chain that ends is decided by its last member. -/
theorem solve_ofClass_of_endsAt (ended : Chain.EndsAt graph.unwrapped? start length last) :
    (graph.ofClass name start).solve ask guard = (graph.classAnswer name last, guard) := by
  refine Goal.solve_any_of_only (solve_isNamedClass name)
    (mem_walk_underlying_iff.mpr ⟨length, ended.reached⟩) fun other visited ne => ?_
  obtain ⟨position, found⟩ := mem_walk_underlying_iff.mp visited
  exact classAnswer_of_unwrapped? fun ends => ne (Chain.EndsAt.unique ⟨found, ends⟩ ended).2

/-- A chain that runs in circles is refused. -/
theorem solve_ofClass_of_circles (circles : Chain.Circles graph.unwrapped? start) :
    (graph.ofClass name start).solve ask guard = (.ok false, guard) := by
  refine Goal.solve_any_of_refused (solve_isNamedClass name) fun other visited => ?_
  obtain ⟨position, found⟩ := mem_walk_underlying_iff.mp visited
  exact classAnswer_of_unwrapped? fun ends => circles.not_endsAt ⟨found, ends⟩

/-- Only defined types are unwrapped, so that a chain of unwrappings runs in circles or ends after
at most as many steps as there are identities. -/
theorem circles_or_endsAt_unwrapped? (graph : Graph) (start : TypeId) :
    Chain.Circles graph.unwrapped? start ∨
      ∃ length ≤ graph.size, ∃ last, Chain.EndsAt graph.unwrapped? start length last := by
  have inside (id : TypeId) (leads : graph.unwrapped? id ≠ none) :
      id ∈ (Finset.range graph.size).image TypeId.mk :=
    Finset.mem_image.mpr ⟨id.raw, Finset.mem_range.mpr (lt_size_of_unwrapped? leads), rfl⟩
  have few : ((Finset.range graph.size).image TypeId.mk).card ≤ graph.size :=
    Finset.card_image_le.trans_eq (Finset.card_range graph.size)
  rcases Chain.circles_or_endsAt fun _ id _ => inside id with
    circles | ⟨length, le, ended⟩
  · exact Or.inl circles
  · exact Or.inr ⟨length, le.trans few, ended⟩

end Graph

namespace Query

theorem outcome_ofClassType {env : Environment} {limits : Limits} {type : TypeId} {name : String}
    {outcome : Except Indeterminate Bool}
    (solved : (env.toGraph.ofClass name type).solve (env.toGraph.ask limits) {} = (outcome, {})) :
    ((ofClassType type name).evaluate env limits).outcome = outcome.map .truth := by
  rw [evaluate, Evaluation.ofSearch, Graph.prove, solved]

/-- Whether a type is of a named class is decided by the last member of its chain of unwrappings
alone, after however many steps that comes; a chain that runs in circles, wherever the type enters
the circle, is refused.  In every graph a chain does the one or the other. -/
theorem class_of_chain_end (env : Environment) (limits : Limits) (type : TypeId) (name : String) :
    (∀ length last, Chain.EndsAt env.unwrapped? type length last →
      ((ofClassType type name).evaluate env limits).outcome =
        (env.classAnswer name last).map .truth) ∧
    (Chain.Circles env.unwrapped? type →
      ((ofClassType type name).evaluate env limits).outcome = .ok (.truth false)) ∧
    (Chain.Circles env.unwrapped? type ∨
      ∃ length ≤ env.size, ∃ last, Chain.EndsAt env.unwrapped? type length last) :=
  ⟨fun _ _ ended => outcome_ofClassType (Graph.solve_ofClass_of_endsAt ended),
    fun circles => outcome_ofClassType (Graph.solve_ofClass_of_circles circles),
    env.circles_or_endsAt_unwrapped? type⟩

end Query

namespace Store

/-- A store with a nested class, an array of it, a variable of that array and a method that results
in the variable; with an array and a variable that are made of each other and an array of these; and
with a variable whose type is not known. -/
def wrappedShapes : Store :=
  empty.run
    [.add (.classDecl { name := "p.Outer$Inner" }),
      .add (.array ⟨13⟩),
      .add (.variableDecl { name := "shapes", type := ⟨14⟩ }),
      .add (.methodDecl { name := "shapes", declaringType := ⟨13⟩, returnType := ⟨15⟩ }),
      .reserve, .add (.variableDecl { name := "loop", type := ⟨17⟩ }),
      .define ⟨17⟩ (.array ⟨18⟩), .add (.array ⟨17⟩),
      .add (.variableDecl { name := "lost", type := ⟨99⟩ })]

theorem class_of_chain_end_of_wrappedShapes :
    let env := wrappedShapes.environment
    (Chain.EndsAt env.unwrapped? ⟨16⟩ 3 ⟨13⟩ ∧
      ((Query.ofClassType ⟨16⟩ "p.Outer.Inner").evaluate env {}).outcome = .ok (.truth true)) ∧
    (Chain.EndsAt env.unwrapped? ⟨20⟩ 1 ⟨99⟩ ∧
      ((Query.ofClassType ⟨20⟩ "p.Outer.Inner").evaluate env {}).outcome =
        .error (.danglingType ⟨99⟩)) ∧
    Chain.Circles env.unwrapped? ⟨19⟩ ∧
      ((Query.ofClassType ⟨19⟩ "p.Outer.Inner").evaluate env {}).outcome = .ok (.truth false) := by
  intro env
  have nested : Chain.EndsAt env.unwrapped? ⟨16⟩ 3 ⟨13⟩ := ⟨by decide +kernel, by decide +kernel⟩
  have missing : Chain.EndsAt env.unwrapped? ⟨20⟩ 1 ⟨99⟩ := ⟨by decide +kernel, by decide +kernel⟩
  have circles : Chain.Circles env.unwrapped? ⟨19⟩ :=
    ⟨1, 3, by decide, ⟨17⟩, by decide +kernel, by decide +kernel⟩
  have binary : ClassName.normalize "p.Outer$Inner" = "p.Outer.Inner" := by decide +kernel
  have source : ClassName.normalize "p.Outer.Inner" = "p.Outer.Inner" := by decide +kernel
  have same : env.classAnswer "p.Outer.Inner" ⟨13⟩ = .ok true := by
    have behind : env.classAnswer "p.Outer.Inner" ⟨13⟩ =
        .ok (ClassName.normalize "p.Outer$Inner" == ClassName.normalize "p.Outer.Inner") := rfl
    rw [behind, binary, source, beq_self_eq_true]
  have answer (type : TypeId) := Query.class_of_chain_end env {} type "p.Outer.Inner"
  refine ⟨⟨nested, ?_⟩, ⟨missing, (answer ⟨20⟩).1 1 ⟨99⟩ missing⟩, circles,
    (answer ⟨19⟩).2.1 circles⟩
  rw [(answer ⟨16⟩).1 3 ⟨13⟩ nested, same]
  rfl

end Store
end JavaTypes
