import JavaTypes.Proofs.TypeArguments
import JavaTypes.Proofs.Wildcards

/-!
# Intersections as sources

A class is fitted by an intersection if it is fitted by one of the bounds.  A parameterized type
does not look at the bounds for its arguments: to it an intersection is a type without arguments of
its own, even where the type itself is among the bounds.
-/

namespace JavaTypes
namespace Graph

variable {graph : Graph} {mode : Mode} {target source base bound : TypeId}
  {arguments bounds : List TypeId} {decl : ClassDecl}

/-- A class is fitted by an intersection exactly if it is fitted by a bound. -/
theorem assignable_intersection_iff (target_eq : graph.node target = some (.classDecl decl))
    (source_eq : graph.node source = some (.intersection bounds)) :
    graph.Assignable mode target source ↔ ∃ bound ∈ bounds, graph.Assignable mode target bound := by
  refine (assignable_iff_fits target_eq rfl source_eq rfl nofun).trans (or_iff_right ?_)
  rintro rfl
  cases target_eq.symm.trans source_eq

/-- A class is fitted by what gives type arguments to it. -/
theorem assignable_base_of_parameterized
    (target_eq : graph.node target = some (.parameterized base arguments))
    (isClass : graph.IsClass base) : graph.Assignable mode base target := by
  obtain ⟨decl, base_eq⟩ := isClass
  exact assignable_of_path target_eq base_eq target_eq rfl .refl

/-- A parameterized type among the bounds of an intersection is fitted by it exactly if its own
arguments are wildcards without bounds. -/
theorem assignable_bound_iff
    (target_eq : graph.node target = some (.parameterized base arguments))
    (isClass : graph.IsClass base) (source_eq : graph.node source = some (.intersection bounds))
    (listed : target ∈ bounds) :
    graph.Assignable mode target source ↔
      ∀ argument ∈ arguments, graph.AcceptsAnything argument := by
  obtain ⟨decl, base_eq⟩ := isClass
  have base_fits : graph.Assignable mode base source :=
    (assignable_intersection_iff base_eq source_eq).mpr
      ⟨target, listed, assignable_base_of_parameterized target_eq ⟨decl, base_eq⟩⟩
  rw [assignable_raw_iff target_eq source_eq rfl nofun nofun]
  exact and_iff_left base_fits

end Graph

namespace Handle

/-- An intersection is never denied to fit a class among its bounds.  It fits a parameterized type
among its bounds exactly if the arguments of that are wildcards without bounds. -/
theorem bound_fitted_iff {handle : Handle} {mode : Mode} {source bound : TypeId}
    {bounds : List TypeId}
    (source_eq : handle.env.toGraph.node source = some (.intersection bounds))
    (listed : bound ∈ bounds) {holds : Bool}
    (answered : (handle.ask (.tryAssignable bound source mode)).1.answer = .ok (.truth holds)) :
    (handle.env.toGraph.IsClass bound → holds = true) ∧
      ∀ base arguments, handle.env.toGraph.node bound = some (.parameterized base arguments) →
        handle.env.toGraph.IsClass base →
        (holds = true ↔ ∀ argument ∈ arguments, handle.env.toGraph.AcceptsAnything argument) := by
  rw [← assignable_iff_of_tryAssignable answered]
  constructor
  · rintro isClass
    obtain ⟨decl, bound_eq⟩ := isClass
    exact (Graph.assignable_intersection_iff bound_eq source_eq).mpr
      ⟨bound, listed, Graph.assignable_self_of_isClass ⟨decl, bound_eq⟩⟩
  · intro base arguments bound_eq isClass
    exact Graph.assignable_bound_iff bound_eq isClass source_eq listed

end Handle

namespace Store

/-- A store with an intersection of a class and of two parameterized types, one with a wildcard as
its argument: `Name & Comparable<Name> & Comparable<?>`. -/
def comparableNames : Store :=
  empty.run
    [.add (.classDecl { name := "p.Comparable", kind := .interface }),
      .add (.classDecl { name := "p.Name" }), .add (.parameterized ⟨13⟩ [⟨14⟩]),
      .add (.typeVariable { name := "?" }), .add (.parameterized ⟨13⟩ [⟨16⟩]),
      .add (.intersection [⟨14⟩, ⟨15⟩, ⟨17⟩])]

theorem intersection_of_comparableNames :
    comparableNames.graph.node ⟨18⟩ = some (.intersection [⟨14⟩, ⟨15⟩, ⟨17⟩]) :=
  rfl

theorem bound_of_comparableNames :
    comparableNames.graph.node ⟨15⟩ = some (.parameterized ⟨13⟩ [⟨14⟩]) :=
  rfl

theorem comparable_of_comparableNames : comparableNames.graph.IsClass ⟨13⟩ := ⟨_, rfl⟩

theorem answers_of_comparableNames :
    let handle : Handle := { env := comparableNames.environment }
    (handle.ask (.tryAssignable ⟨14⟩ ⟨18⟩ .bound)).1.answer = .ok (.truth true) ∧
      (handle.ask (.tryAssignable ⟨15⟩ ⟨18⟩ .bound)).1.answer = .ok (.truth false) ∧
      (handle.ask (.tryAssignable ⟨17⟩ ⟨18⟩ .bound)).1.answer = .ok (.truth true) := by
  decide +kernel

theorem bound_fitted_iff_of_comparableNames :
    let handle : Handle := { env := comparableNames.environment }
    let answer (bound : TypeId) := (handle.ask (.tryAssignable bound ⟨18⟩ .bound)).1.answer
    answer ⟨14⟩ = .ok (.truth true) ∧ answer ⟨15⟩ = .ok (.truth false) ∧
      answer ⟨17⟩ = .ok (.truth true) ∧
      (answer ⟨15⟩ = answer ⟨14⟩ ↔
        ∀ argument ∈ [(⟨14⟩ : TypeId)], comparableNames.graph.AcceptsAnything argument) ∧
      (answer ⟨17⟩ = answer ⟨14⟩ ↔
        ∀ argument ∈ [(⟨16⟩ : TypeId)], comparableNames.graph.AcceptsAnything argument) := by
  intro handle answer
  obtain ⟨name_accepted, refused, wildcard_accepted⟩ : answer ⟨14⟩ = .ok (.truth true) ∧
    answer ⟨15⟩ = .ok (.truth false) ∧ answer ⟨17⟩ = .ok (.truth true) :=
      answers_of_comparableNames
  have wildcard_eq : comparableNames.graph.node ⟨17⟩ = some (.parameterized ⟨13⟩ [⟨16⟩]) := rfl
  have name_fits := (Handle.bound_fitted_iff intersection_of_comparableNames (by decide)
    name_accepted).1 ⟨_, rfl⟩
  have refused_iff := (Handle.bound_fitted_iff intersection_of_comparableNames (by decide)
    refused).2 _ _ bound_of_comparableNames comparable_of_comparableNames
  have wildcard_iff := (Handle.bound_fitted_iff intersection_of_comparableNames (by decide)
    wildcard_accepted).2 _ _ wildcard_eq comparable_of_comparableNames
  have name_fitted : answer ⟨14⟩ = .ok (.truth true) :=
    name_accepted.trans (Answer.ok_truth_congr name_fits)
  refine ⟨name_fitted, refused, wildcard_accepted, ?_, ?_⟩
  · rw [refused, name_fitted]
    exact (iff_of_false nofun nofun).trans refused_iff
  · rw [wildcard_accepted, name_fitted]
    exact (iff_of_true rfl rfl).trans wildcard_iff

/-- An intersection may be denied to fit a parameterized type that is one of its bounds. -/
theorem bound_not_fitted :
    ¬ ∀ (store : Store) (source bound : TypeId) (bounds : List TypeId) (mode : Mode),
      store.graph.node source = some (.intersection bounds) → bound ∈ bounds →
      (store.graph.IsClass bound ∨ ∃ base arguments,
        store.graph.node bound = some (.parameterized base arguments) ∧ store.graph.IsClass base) →
      (Handle.ask { env := store.environment } (.tryAssignable bound source mode)).1.answer ≠
        .ok (.truth false) := by
  intro always
  exact always comparableNames ⟨18⟩ ⟨15⟩ _ .bound intersection_of_comparableNames (by decide)
    (Or.inr ⟨_, _, bound_of_comparableNames, comparable_of_comparableNames⟩)
    answers_of_comparableNames.2.1

end Store
end JavaTypes
