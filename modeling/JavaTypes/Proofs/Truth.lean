import JavaTypes.Proofs.Budget
import Mathlib.Order.ConditionallyCompleteLattice.Basic
import Mathlib.Order.FixedPoints

/-!
# Truth of questions

The rules of the two relations are read coinductively: a question is true if it belongs to a set of
questions each of which is justified by others of the set.  A search assumes the questions that are
open.  This is sound: what is true if it is assumed itself is true without the assumption.
-/

namespace JavaTypes
namespace Graph

/-- Whether a question is true at once or by the questions that it reduces to, if these are answered
as given. -/
def Justified (graph : Graph) (answer : Question → Prop) (question : Question) : Prop :=
  match graph.step question with
  | .settled outcome => outcome = .ok true
  | .reduced goal => goal.Holds answer

variable {graph : Graph}

theorem justified_of_settled {answer : Question → Prop} {question : Question}
    {outcome : Except Indeterminate Bool} (settled : graph.step question = .settled outcome) :
    graph.Justified answer question ↔ outcome = .ok true := by
  rw [Justified, settled]

theorem justified_of_reduced {answer : Question → Prop} {question : Question} {goal : Goal}
    (reduced : graph.step question = .reduced goal) :
    graph.Justified answer question ↔ goal.Holds answer := by
  rw [Justified, reduced]

theorem justified_iff {answer : Question → Prop} {question : Question} :
    graph.Justified answer question ↔
      ∃ targetNode ∈ graph.node question.target, ∃ sourceNode ∈ graph.node question.source,
        match atOnce? question targetNode sourceNode with
        | some holds => holds = true
        | none => (graph.goal question targetNode sourceNode).Holds answer := by
  rw [Justified, step]
  cases graph.node question.target with
  | none => simp
  | some targetNode =>
      cases graph.node question.source with
      | none => simp
      | some sourceNode => cases settled : atOnce? question targetNode sourceNode <;> simp [settled]

theorem Justified.mono {answer larger : Question → Prop} {question : Question}
    (le : ∀ other, answer other → larger other) (justified : graph.Justified answer question) :
    graph.Justified larger question := by
  cases step : graph.step question with
  | settled outcome =>
      rw [justified_of_settled step] at justified ⊢
      exact justified
  | reduced goal =>
      rw [justified_of_reduced step] at justified ⊢
      exact justified.mono le

/-- The rules of the two relations, where some questions are assumed to be true. -/
def rulesGiven (graph : Graph) (assumed : Question → Prop) :
    (Question → Prop) →o (Question → Prop) where
  toFun answer := graph.Justified (answer ⊔ assumed)
  monotone' := fun _ _ le _ => Justified.mono fun _ => Or.imp_left (le _)

/-- The greatest set of questions that are justified by each other and by what is assumed. -/
def ValidGiven (graph : Graph) (assumed : Question → Prop) : Question → Prop :=
  (graph.rulesGiven assumed).gfp

/-- The greatest set of questions that are justified by each other. -/
def Valid (graph : Graph) : Question → Prop := graph.ValidGiven ⊥

theorem validGiven_iff {assumed : Question → Prop} {question : Question} :
    graph.ValidGiven assumed question ↔
      graph.Justified (graph.ValidGiven assumed ⊔ assumed) question :=
  iff_of_eq (congrFun (graph.rulesGiven assumed).map_gfp.symm question)

theorem valid_iff {question : Question} :
    graph.Valid question ↔ graph.Justified graph.Valid question := by
  rw [Valid, validGiven_iff, sup_bot_eq]

/-- Questions that are justified by each other are true. -/
theorem valid_of_closed {answer : Question → Prop}
    (closed : ∀ question, answer question → graph.Justified answer question) {question : Question}
    (member : answer question) : graph.Valid question := by
  have le : answer ≤ graph.rulesGiven ⊥ answer := fun other found =>
    (closed other found).mono fun _ => Or.inl
  exact (graph.rulesGiven ⊥).le_gfp le question member

/-- What is true if it is assumed itself is true without that assumption. -/
theorem validGiven_discharge {opened : List Question} {question : Question}
    (valid : graph.ValidGiven (· ∈ question :: opened) question) :
    graph.ValidGiven (· ∈ opened) question := by
  have le : graph.ValidGiven (· ∈ question :: opened) ≤
      graph.rulesGiven (· ∈ opened) (graph.ValidGiven (· ∈ question :: opened)) := by
    intro other found
    refine (validGiven_iff.mp found).mono fun part known => ?_
    rcases known with part_valid | part_mem
    · exact Or.inl part_valid
    · rcases List.mem_cons.mp part_mem with rfl | part_open
      · exact Or.inl valid
      · exact Or.inr part_open
  exact (graph.rulesGiven (· ∈ opened)).le_gfp le question valid

/-- A question that is answered with yes is open or follows from the open ones. -/
theorem valid_of_run {opened : List Question} {question : Question}
    (answered : (graph.run opened question).outcome = .ok true) :
    question ∈ opened ∨ graph.ValidGiven (· ∈ opened) question := by
  induction opened, question using graph.run_induction with
  | settled opened question outcome settled =>
      rw [run_of_settled settled] at answered
      exact Or.inr (validGiven_iff.mpr ((justified_of_settled settled).mpr answered))
  | known opened question goal reduced known => exact Or.inl known
  | fresh opened question goal reduced fresh ih =>
      rw [run_of_fresh reduced fresh] at answered
      have holds := Goal.holds_of_tried (fun other found => (ih other found).symm) answered
      exact Or.inr (validGiven_discharge
        (validGiven_iff.mpr ((justified_of_reduced reduced).mpr holds)))

/-- A question that is answered with no is false, whatever is assumed on the way. -/
theorem not_valid_of_run {opened : List Question} {question : Question}
    (answered : (graph.run opened question).outcome = .ok false) : ¬ graph.Valid question := by
  induction opened, question using graph.run_induction with
  | settled opened question outcome settled =>
      rw [run_of_settled settled] at answered
      have outcome_eq : outcome = .ok false := answered
      rw [valid_iff, justified_of_settled settled, outcome_eq]
      simp
  | known opened question goal reduced known =>
      rw [run_of_open reduced known] at answered
      cases answered
  | fresh opened question goal reduced fresh ih =>
      rw [run_of_fresh reduced fresh] at answered
      rw [valid_iff, justified_of_reduced reduced]
      exact Goal.not_holds_of_tried ih answered

/-- Answers are right: yes is answered only to what is true, and no only to what is not. -/
theorem valid_iff_of_run {question : Question} {answer : Bool}
    (answered : (graph.run [] question).outcome = .ok answer) :
    graph.Valid question ↔ answer = true := by
  cases answer with
  | true =>
      have valid : graph.ValidGiven (· ∈ []) question :=
        (valid_of_run answered).resolve_left List.not_mem_nil
      have nothing : (· ∈ ([] : List Question)) = ⊥ := funext fun other => by simp
      rw [nothing] at valid
      exact iff_of_true valid rfl
  | false => exact iff_of_false (not_valid_of_run answered) Bool.false_ne_true

end Graph

namespace Handle

theorem valid_iff_of_tryAnswer {handle : Handle} {question : Question} {answer : Bool}
    (answered : handle.tryAnswer question = .ok (.truth answer)) :
    handle.env.toGraph.Valid question ↔ answer = true :=
  Graph.valid_iff_of_run (outcome_of_tryAnswer answered)

end Handle
end JavaTypes
