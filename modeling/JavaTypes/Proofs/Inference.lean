import JavaTypes.Proofs.Assignment

/-!
# Inference adds answers

Opening the type variables of one side may turn a no into a yes, and never a yes into a no.  A
contravariant position exchanges the sides and with them the open one, so that neither side can be
treated without the other: what holds with every variable bound holds whichever side is open.
-/

namespace JavaTypes
namespace TypeRelation

/-- The relation that holds in every mode between the types that are related with every variable
bound. -/
def whicheverOpen (related : TypeRelation) : TypeRelation := fun _ target source =>
  related .bound target source

end TypeRelation

namespace Graph

variable {graph : Graph} {same assignable : TypeRelation} {mode : Mode} {target source : TypeId}
  {targetNode sourceNode : Node}

/-- The rule for sameness compares parts in its own mode or with every variable bound. -/
theorem AlikeBy.whicheverOpen
    (alike : graph.AlikeBy same .bound target source targetNode sourceNode) :
    graph.AlikeBy same.whicheverOpen mode target source targetNode sourceNode := by
  cases targetNode <;> cases sourceNode <;> exact alike

theorem SameBy.whicheverOpen (alike : graph.SameBy same .bound target source) :
    graph.SameBy same.whicheverOpen mode target source := by
  obtain ⟨targetNode, target_eq, sourceNode, source_eq, target_known, source_known, alike⟩ := alike
  refine ⟨targetNode, target_eq, sourceNode, source_eq, target_known, source_known, ?_⟩
  rcases alike with rfl | infers | strings | built
  · exact Or.inl rfl
  · exact absurd infers Bool.false_ne_true
  · exact Or.inr (Or.inr (Or.inl strings))
  · exact Or.inr (Or.inr (Or.inr built.whicheverOpen))

/-- Types that are the same with every variable bound are the same in every mode. -/
theorem same_of_bound (bound : graph.Same .bound target source) :
    graph.Same mode target source := by
  have le : graph.Same.whicheverOpen ≤ graph.sameRules graph.Same.whicheverOpen :=
    fun _ _ _ found => SameBy.whicheverOpen (same_iff_sameBy.mp found)
  exact graph.sameRules.le_gfp le mode target source bound

theorem ArgumentFits.whicheverOpen
    (same_le : ∀ target source, same .bound target source → same mode target source)
    (fits : graph.ArgumentFits same assignable .bound target source) :
    graph.ArgumentFits same assignable.whicheverOpen mode target source := by
  obtain ⟨node, node_eq, fits⟩ := fits
  refine ⟨node, node_eq, ?_⟩
  cases node with
  | typeVariable decl =>
      dsimp only at fits ⊢
      split at fits
      · next wildcard =>
          rw [if_pos wildcard]
          intro bound first
          obtain ⟨sourceNode, source_eq, offered, offers, admits⟩ := fits bound first
          refine ⟨sourceNode, source_eq, offered, offers, ?_⟩
          rw [TypeVariable.Admits] at admits ⊢
          -- A lower bound is compared in the dual mode, which bound mode does not tell apart.
          cases variance : decl.variance <;> rw [variance] at admits <;> exact admits
      · next named =>
          rw [if_neg named]
          exact same_le _ _ fits
  | _ => exact same_le _ _ fits

theorem Fits.whicheverOpen
    (same_le : ∀ target source, same .bound target source → same mode target source)
    (fits : graph.Fits same assignable .bound target source sourceNode targetNode) :
    graph.Fits same assignable.whicheverOpen mode target source sourceNode targetNode := by
  cases targetNode with
  | parameterized base arguments =>
      cases sourceNode with
      | parameterized sourceBase sourceArguments =>
          exact ⟨fits.1, fits.2.imp fun _ _ => ArgumentFits.whicheverOpen same_le⟩
      | _ => exact fits
  | typeVariable decl => cases fits
  | classDecl _ | annotationUse _ _ => cases sourceNode <;> exact fits
  | array element =>
      cases sourceNode with
      | array sourceElement =>
          obtain ⟨elementNode, element_eq, fits⟩ := fits
          refine ⟨elementNode, element_eq, ?_⟩
          cases elementNode <;> exact fits
      | _ => exact fits
  | _ => exact fits

theorem AssignableBy.whicheverOpen
    (same_le : ∀ target source, same .bound target source → same mode target source)
    (fits : graph.AssignableBy same assignable .bound target source) :
    graph.AssignableBy same assignable.whicheverOpen mode target source := by
  obtain ⟨targetNode, target_eq, sourceNode, source_eq, target_known, source_known, not_wildcard,
    fits⟩ := fits
  refine ⟨targetNode, target_eq, sourceNode, source_eq, target_known, source_known, not_wildcard,
    ?_⟩
  split at fits
  · next null =>
      rw [if_pos null]
      exact fits
  · next not_null =>
      rw [if_neg not_null]
      rcases fits with rfl | infers | fits
      · exact Or.inl rfl
      · exact absurd infers Bool.false_ne_true
      · exact Or.inr (Or.inr (fits.whicheverOpen same_le))

/-- What may be assigned with every variable bound may be assigned in every mode. -/
theorem assignable_of_bound (bound : graph.Assignable .bound target source) :
    graph.Assignable mode target source := by
  have le : graph.Assignable.whicheverOpen ≤ graph.assignableRules graph.Assignable.whicheverOpen :=
    fun _ _ _ found => AssignableBy.whicheverOpen (fun _ _ => same_of_bound)
      (assignable_iff_assignableBy.mp found)
  exact graph.assignableRules.le_gfp le mode target source bound

end Graph

namespace Handle

/-- What a handle finds to be the same, or assignable, with every type variable bound, it does not
deny in any mode, whichever sides contravariant positions exchange. -/
theorem bound_answer_not_denied (handle : Handle) (target source : TypeId) :
    ((handle.ask (.tryOfType target source .bound)).1.answer = .ok (.truth true) →
      ∀ mode, (handle.ask (.tryOfType target source mode)).1.answer ≠ .ok (.truth false)) ∧
    ((handle.ask (.tryAssignable target source .bound)).1.answer = .ok (.truth true) →
      ∀ mode, (handle.ask (.tryAssignable target source mode)).1.answer ≠ .ok (.truth false)) := by
  constructor
  · intro answered mode denied
    have same : handle.env.toGraph.Same mode target source :=
      Graph.same_of_bound ((same_iff_of_tryOfType answered).mpr rfl)
    exact Bool.false_ne_true ((same_iff_of_tryOfType denied).mp same)
  · intro answered mode denied
    have assignable : handle.env.toGraph.Assignable mode target source :=
      Graph.assignable_of_bound ((assignable_iff_of_tryAssignable answered).mpr rfl)
    exact Bool.false_ne_true ((assignable_iff_of_tryAssignable denied).mp assignable)

/-- A handle for a graph with two types `Box<? super Box<? super T>>`. -/
def nestedLowerBounds : Handle where
  env := (Store.empty.run
    [.add (.classDecl { name := "Box" }), .add (.typeVariable { name := "T" }),
      .add (.typeVariable { name := "?", variance := .contravariant, bounds := [⟨14⟩] }),
      .add (.parameterized ⟨13⟩ [⟨15⟩]),
      .add (.typeVariable { name := "?", variance := .contravariant, bounds := [⟨16⟩] }),
      .add (.parameterized ⟨13⟩ [⟨17⟩]),
      .add (.typeVariable { name := "?", variance := .contravariant, bounds := [⟨14⟩] }),
      .add (.parameterized ⟨13⟩ [⟨19⟩]),
      .add (.typeVariable { name := "?", variance := .contravariant, bounds := [⟨20⟩] }),
      .add (.parameterized ⟨13⟩ [⟨21⟩])]).environment

theorem bound_answer_not_denied_of_nestedLowerBounds :
    ((nestedLowerBounds.ask (.tryOfType ⟨18⟩ ⟨22⟩ .bound)).1.answer = .ok (.truth true) ∧
      (nestedLowerBounds.ask (.tryOfType ⟨18⟩ ⟨22⟩ .reverse)).1.answer ≠ .ok (.truth false)) ∧
    ((nestedLowerBounds.ask (.tryAssignable ⟨18⟩ ⟨22⟩ .bound)).1.answer = .ok (.truth true) ∧
      (nestedLowerBounds.ask (.tryAssignable ⟨18⟩ ⟨22⟩ .infer)).1.answer ≠
        .ok (.truth false)) := by
  have same : (nestedLowerBounds.ask (.tryOfType ⟨18⟩ ⟨22⟩ .bound)).1.answer =
      .ok (.truth true) := rfl
  have fits : (nestedLowerBounds.ask (.tryAssignable ⟨18⟩ ⟨22⟩ .bound)).1.answer =
      .ok (.truth true) := rfl
  obtain ⟨sameness, assignability⟩ := nestedLowerBounds.bound_answer_not_denied ⟨18⟩ ⟨22⟩
  exact ⟨⟨same, sameness same .reverse⟩, fits, assignability fits .infer⟩

end Handle
end JavaTypes
