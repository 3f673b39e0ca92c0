import JavaTypes.Proofs.Candidates
import JavaTypes.Proofs.Inquiries
import JavaTypes.Proofs.Naming

/-!
# Tests of names

Where no primitive comes into play, a search for a name is decided by the names of classes alone.
A test of types that looks at the name of each, and a test that is given the names themselves, then
find what the search finds, although each has a walk of its own.
-/

namespace JavaTypes
namespace Inquiry

variable {α : Type} {test : α → Bool} {before : List α}

/-- A test that remembers nothing is asked about a row of items and, unless it accepts one of them,
about what comes behind. -/
theorem outcome_along_prepend (items : List α)
    (rest : Unit → LazyList (Except Indeterminate α)) :
    (along (fun _ => test) before (.prepend rest (items.map .ok))).outcome =
      if items.any test then .ok true
      else (along (fun _ => test) (items.reverse ++ before) (rest ())).outcome := by
  induction items generalizing before with
  | nil => rfl
  | cons item items ih =>
      rw [List.map_cons, LazyList.prepend, along]
      cases answer : test item with
      | true => simp [answer]
      | false => simp [answer, ih]

/-- A search through alternatives that ends is decided as by a test that is asked, at each
alternative, items of which it accepts one exactly if the alternative holds. -/
theorem outcome_along_of_any {ask : Question → Search Bool} {goal : TypeId → Goal}
    {items : LazyList TypeId} {guard : Guard} {holds : Bool} (test : α → Bool)
    (asked : TypeId → List (Except Indeterminate α)) (before : List α)
    (each : ∀ id ∈ items.toList, ∀ guard answer, ((goal id).solve ask guard).1 = .ok answer →
      ∃ own : List α, asked id = own.map .ok ∧ own.any test = answer)
    (found : ((Goal.any (items.map goal)).solve ask guard).1 = .ok holds) :
    (along (fun _ => test) before (items.flatMap asked)).outcome = .ok holds := by
  induction items generalizing guard before with
  | nil => exact found
  | cons id rest ih =>
      obtain ⟨here, behind⟩ := List.forall_mem_cons.mp each
      rw [LazyList.map, Goal.any, Goal.solve_either, Goal.continued_eq_ok] at found
      rw [LazyList.flatMap_cons]
      rcases found with ⟨refused, later⟩ | ⟨decided, ne⟩
      · obtain ⟨own, asked_eq, none_accepted⟩ := here _ _ refused
        rw [asked_eq, outcome_along_prepend, none_accepted, if_neg Bool.false_ne_true]
        exact ih () _ behind later
      · obtain ⟨own, asked_eq, accepted⟩ := here _ _ decided
        rw [asked_eq, outcome_along_prepend, accepted, eq_true_of_ne_false ne, if_pos rfl]

end Inquiry

namespace Graph

variable {graph : Graph} {name : String} {source id : TypeId} {ask : Question → Search Bool}
  {guard : Guard} {answer : Bool}

/-- Where a type is not a primitive and the name has no bracket, a type that is looked at has a node,
and bears the name exactly if it is a nominal type of a class of that name. -/
theorem ok_of_bearsName (plain : '<' ∉ name.toList)
    (noPrimitive : ∀ kind, graph.node id ≠ some (.primitive kind))
    (decided : ((graph.bearsName name id).solve ask guard).1 = .ok answer) :
    ∃ node, graph.node id = some node ∧
      if node.isNominal then ∃ own, graph.qualifiedName id = some own ∧ ClassName.same name own = answer
      else answer = false := by
  rw [bearsName, withNode] at decided
  cases node_eq : graph.node id with
  | none =>
      rw [node_eq] at decided
      cases decided
  | some node =>
      rw [node_eq] at decided
      have called (decided : ((graph.withName id fun own => .decided (ClassName.same name own)).solve
          ask guard).1 = .ok answer) :
          ∃ own, graph.qualifiedName id = some own ∧ ClassName.same name own = answer := by
        rw [withName] at decided
        split at decided
        · next own own_eq => exact ⟨own, own_eq, Except.ok.inj decided⟩
        · cases decided
      refine ⟨node, rfl, ?_⟩
      cases node with
      | primitive kind => exact absurd node_eq (noPrimitive kind)
      | classDecl decl | annotationUse type values => exact called decided
      | parameterized base arguments =>
          dsimp only at decided
          rw [isWritten_eq_false node_eq plain, if_neg Bool.false_ne_true] at decided
          exact called decided
      | _ => exact (Except.ok.inj decided).symm

/-- A test of types that looks at their names is asked, of what a search for a name looks at, what
decides the search. -/
theorem typeAsked_of_bearsName (plain : '<' ∉ name.toList)
    (noPrimitive : ∀ kind, graph.node id ≠ some (.primitive kind))
    (decided : ((graph.bearsName name id).solve ask guard).1 = .ok answer) :
    ∃ own : List TypeId, graph.typeAsked id = own.map .ok ∧
      own.any (fun other => (graph.qualifiedName other).any (ClassName.same name)) = answer := by
  obtain ⟨node, node_eq, called⟩ := ok_of_bearsName plain noPrimitive decided
  rw [typeAsked_of_defined (by simp [node_eq])]
  have tested_eq : graph.isTested id = node.isNominal := by
    have other_kind : graph.primitive? id = none := by
      rw [Option.eq_none_iff_forall_ne_some]
      exact fun kind kind_eq => noPrimitive kind (primitive?_eq_some_iff.mp kind_eq)
    simp [isTested, other_kind, node_eq]
  cases nominal : node.isNominal with
  | true =>
      rw [nominal, if_pos rfl] at called
      obtain ⟨own, own_eq, rfl⟩ := called
      exact ⟨[id], by simp [tested_eq, nominal], by simp [own_eq]⟩
  | false =>
      rw [nominal, if_neg Bool.false_ne_true] at called
      exact ⟨[], by simp [tested_eq, nominal], by simp [called]⟩

/-- A test of names is asked, of nominal types that a search for a name looks at, what decides the
search, unless the name is that of the root of the hierarchy. -/
theorem nameAsked_of_bearsName {node : Node} (plain : '<' ∉ name.toList)
    (root : ClassName.normalize name ≠ ClassName.normalize ClassName.object)
    (node_eq : graph.node id = some node) (nominal : node.isNominal = true)
    (decided : ((graph.bearsName name id).solve ask guard).1 = .ok answer) :
    ∃ own : List String, graph.nameAsked true id = own.map .ok ∧
      own.any (ClassName.same name) = answer := by
  have noPrimitive : ∀ kind, graph.node id ≠ some (.primitive kind) := by
    rintro kind kind_eq
    obtain rfl := Option.some.inj (node_eq.symm.trans kind_eq)
    cases nominal
  obtain ⟨other, other_eq, called⟩ := ok_of_bearsName plain noPrimitive decided
  obtain rfl := Option.some.inj (node_eq.symm.trans other_eq)
  rw [nominal, if_pos rfl] at called
  obtain ⟨own, own_eq, rfl⟩ := called
  have root_refused : ClassName.same name ClassName.object = false := by
    rw [Bool.eq_false_iff]
    exact fun same => root (ClassName.same_iff.mp same)
  rw [nameAsked, node_eq, own_eq]
  dsimp only
  rw [if_pos nominal]
  split
  · exact ⟨[own, ClassName.object], rfl, by simp [root_refused]⟩
  · exact ⟨[own], rfl, by simp⟩

/-- Where everything that the source leads to is nominal, the walk along superclasses and interfaces
is the walk that a search for a name makes. -/
theorem walk_nominalSupertypes
    (nominal : ∀ id, Relation.ReflTransGen graph.TakesNamesOf source id →
      ∃ node, graph.node id = some node ∧ node.isNominal = true) :
    graph.walk graph.nominalSupertypes source = graph.walk graph.ancestors source := by
  refine (walkFrom_congr ?_).symm
  intro start start_mem id path
  rw [List.mem_singleton.mp start_mem, leads_ancestors] at path
  obtain ⟨node, node_eq, is_nominal⟩ := nominal id path
  rw [ancestors_of_nominal node_eq is_nominal, nominalSupertypes, node_eq]
  exact (if_pos is_nominal).symm

end Graph

namespace Query

/-- Where a source leads to no primitive, a search for a name without a bracket that is answered is
answered alike by a test of types that compares their names with it; and where a source leads to
nominal types alone, by a test that is given their names, unless the name is that of the root of the
hierarchy. -/
theorem name_tests_agree {env : Environment} {limits : Limits} {name : String} {source : TypeId}
    {holds : Bool} (plain : '<' ∉ name.toList)
    (noPrimitive : ∀ id, Relation.ReflTransGen env.toGraph.TakesNamesOf source id →
      ∀ kind, env.node id ≠ some (.primitive kind))
    (found : ((assignableToName name source).evaluate env limits).outcome = .ok (.truth holds)) :
    ((assignableToPredicate (fun _ id => (env.qualifiedName id).any (ClassName.same name))
      source).evaluate env limits).outcome = .ok (.truth holds) ∧
    ((∀ id, Relation.ReflTransGen env.toGraph.TakesNamesOf source id →
        ∃ node, env.node id = some node ∧ node.isNominal = true) →
      ClassName.normalize name ≠ ClassName.normalize ClassName.object →
      ((ofTypeWithName (some source) true (ClassName.same name)).evaluate env limits).outcome =
        .ok (.truth holds)) := by
  have decided : (env.toGraph.prove limits (env.toGraph.fitsName name source) {}).1 = .ok holds :=
    (Evaluation.outcome_ofSearch_eq_ok fun _ _ => Answer.truth.inj).mp found
  constructor
  · have asked := Inquiry.outcome_along_of_any
      (fun id => (env.qualifiedName id).any (ClassName.same name)) env.typeAsked []
      (fun id member _ _ => Graph.typeAsked_of_bearsName plain
        (noPrimitive id (Graph.mem_walk_iff_takesNamesOf.mp member))) decided
    simp [evaluate, Evaluation.ofTypes, Graph.askTypes, asked, Except.map]
  · intro nominal root
    have asked := Inquiry.outcome_along_of_any (ClassName.same name) (env.nameAsked true) []
      (fun id member _ _ own_decided => by
        obtain ⟨node, node_eq, is_nominal⟩ :=
          nominal id (Graph.mem_walk_iff_takesNamesOf.mp member)
        exact Graph.nameAsked_of_bearsName plain root node_eq is_nominal own_decided) decided
    simp [evaluate, Evaluation.ofNames, Graph.askNames, Graph.walk_nominalSupertypes nominal, asked,
      Except.map]

/-- A store with two classes that extend each other, one of which implements a generic interface for
the other. -/
def mutualTasks : Store :=
  Store.empty.run
    [.reserve, .add (.classDecl { name := "p.Task", kind := .interface }),
      .add (.parameterized ⟨14⟩ [⟨13⟩]),
      .add (.classDecl { name := "p.B", supertype := some ⟨13⟩, interfaces := [⟨15⟩] }),
      .define ⟨13⟩ (.classDecl { name := "p.A", supertype := some ⟨16⟩ })]

theorem name_tests_agree_of_mutualTasks :
    let env := mutualTasks.environment
    let name := "p.Task"
    '<' ∉ name.toList ∧
      (∀ id, Relation.ReflTransGen env.toGraph.TakesNamesOf ⟨13⟩ id →
        ∃ node, env.node id = some node ∧ node.isNominal = true) ∧
      ((assignableToName name ⟨13⟩).evaluate env {}).outcome = .ok (.truth true) ∧
      ((assignableToPredicate (fun _ id => (env.qualifiedName id).any (ClassName.same name))
        ⟨13⟩).evaluate env {}).outcome = .ok (.truth true) ∧
      ((ofTypeWithName (some ⟨13⟩) true (ClassName.same name)).evaluate env {}).outcome =
        .ok (.truth true) := by
  intro env name
  have visited_nominal : ∀ id ∈ (env.walk env.ancestors ⟨13⟩).toList,
      (env.node id).any Node.isNominal = true := by decide +kernel
  have nominal : ∀ id, Relation.ReflTransGen env.toGraph.TakesNamesOf ⟨13⟩ id →
      ∃ node, env.node id = some node ∧ node.isNominal = true := fun id reaches =>
    Option.any_eq_true _ _ |>.mp (visited_nominal id (Graph.mem_walk_iff_takesNamesOf.mpr reaches))
  have noPrimitive : ∀ id, Relation.ReflTransGen env.toGraph.TakesNamesOf ⟨13⟩ id →
      ∀ kind, env.node id ≠ some (.primitive kind) := by
    intro id reaches kind kind_eq
    obtain ⟨node, node_eq, is_nominal⟩ := nominal id reaches
    obtain rfl := Option.some.inj (node_eq.symm.trans kind_eq)
    cases is_nominal
  have plain : '<' ∉ name.toList := by decide +kernel
  have found : ((assignableToName name ⟨13⟩).evaluate env {}).outcome = .ok (.truth true) := by
    decide +kernel
  obtain ⟨by_type, by_name⟩ := name_tests_agree plain noPrimitive found
  exact ⟨plain, nominal, found, by_type, by_name nominal (by decide +kernel)⟩

end Query
end JavaTypes
