import JavaTypes.Check
import Mathlib.Data.List.Basic
import Mathlib.Data.List.ProdSigma
import Mathlib.Tactic.Ring

/-!
# Runs without limits

A question opens only while it is not open already, and only between types that are defined.  There
are finitely many such questions, so that answering one comes to an end without any limit.  The run
of a question is what answering it comes to when no limit interferes; it records how many questions
were open whenever another was asked.
-/

namespace JavaTypes

/-- What answering comes to when no limit interferes. -/
structure Run where
  outcome : Except Indeterminate Bool
  /-- How many questions were open at each question that was asked, in order. -/
  depths : List Nat

namespace Run

/-- One run and then, if it ends with the answer `turning`, another. -/
def followedBy (first : Run) (turning : Bool) (second : Run) : Run :=
  match first.outcome with
  | .ok answer =>
      if answer = turning then ⟨second.outcome, first.depths ++ second.depths⟩ else first
  | .error _ => first

/-- A run that is made while one more question is open. -/
def within (run : Run) (depth : Nat) : Run := { run with depths := depth :: run.depths }

/-- How many questions were asked. -/
def entries (run : Run) : Nat := run.depths.length

/-- One more than the largest number of open questions at which another was asked. -/
def reach (run : Run) : Nat := run.depths.foldr (fun depth most => max (depth + 1) most) 0

theorem outcome_followedBy_eq_ok {first second : Run} {turning answer : Bool} :
    (first.followedBy turning second).outcome = .ok answer ↔
      first.outcome = .ok turning ∧ second.outcome = .ok answer ∨
        first.outcome = .ok answer ∧ answer ≠ turning := by
  rw [followedBy]
  cases ended : first.outcome with
  | error cause => simp [ended]
  | ok found =>
      rcases eq_or_ne found turning with rfl | other
      · have same_only : found = answer → answer ≠ found → second.outcome = .ok answer :=
          fun eq ne => absurd eq.symm ne
        simpa using same_only
      · have turned : found = answer → answer ≠ turning := fun eq => eq ▸ other
        simpa [other, ended] using turned

theorem outcome_followedBy_eq_error {first second : Run} {turning : Bool}
    {cause : Indeterminate} :
    (first.followedBy turning second).outcome = .error cause ↔
      first.outcome = .error cause ∨
        first.outcome = .ok turning ∧ second.outcome = .error cause := by
  rw [followedBy]
  cases ended : first.outcome with
  | error found => simp [ended]
  | ok found =>
      by_cases same : found = turning
      · simp [same]
      · simp [same, ended]

theorem mem_depths_of_followedBy {first second : Run} {turning : Bool} {depth : Nat}
    (member : depth ∈ (first.followedBy turning second).depths) :
    depth ∈ first.depths ∨ depth ∈ second.depths := by
  rw [followedBy] at member
  split at member
  · split at member
    · exact List.mem_append.mp member
    · exact Or.inl member
  · exact Or.inl member

theorem reach_append (outcome : Except Indeterminate Bool) (first second : Run) :
    reach ⟨outcome, first.depths ++ second.depths⟩ = max first.reach second.reach := by
  simp only [reach, List.foldr_append]
  induction first.depths with
  | nil => simp
  | cons depth depths ih => rw [List.foldr_cons, ih, List.foldr_cons, max_assoc]

theorem reach_le_iff {run : Run} {bound : Nat} :
    run.reach ≤ bound ↔ ∀ depth ∈ run.depths, depth < bound := by
  rw [reach]
  induction run.depths with
  | nil => simp
  | cons first rest ih =>
      rw [List.foldr_cons, Nat.max_le, ih, List.forall_mem_cons, Nat.succ_le_iff]

end Run

namespace Goal

/-- Tries a goal from left to right without limits, where `ask` gives the run of a question. -/
def tried (ask : Question → Run) : Goal → Run
  | decided answer => ⟨.ok answer, []⟩
  | stuck cause => ⟨.error cause, []⟩
  | compare question => ask question
  | both first second => (first.tried ask).followedBy true (second.tried ask)
  | either first second => (first.tried ask).followedBy false ((second ()).tried ask)

variable {ask : Question → Run}

/-- A goal that is found to hold does hold, if the questions found to be true are. -/
theorem holds_of_tried {answer : Question → Prop}
    (sound : ∀ question, (ask question).outcome = .ok true → answer question) {goal : Goal}
    (found : (goal.tried ask).outcome = .ok true) : goal.Holds answer := by
  induction goal with
  | decided holds => simpa [tried, Holds] using found
  | stuck cause => simp [tried] at found
  | compare question => exact sound question found
  | both first second ihFirst ihSecond =>
      rcases Run.outcome_followedBy_eq_ok.mp found with ⟨first_found, second_found⟩ | ⟨_, ne⟩
      · exact ⟨ihFirst first_found, ihSecond second_found⟩
      · exact absurd rfl ne
  | either first second ihFirst ihSecond =>
      rcases Run.outcome_followedBy_eq_ok.mp found with ⟨_, second_found⟩ | ⟨first_found, _⟩
      · exact Or.inr (ihSecond () second_found)
      · exact Or.inl (ihFirst first_found)

/-- A goal that is found to fail does fail, if the questions found to be false do. -/
theorem not_holds_of_tried {answer : Question → Prop}
    (sound : ∀ question, (ask question).outcome = .ok false → ¬ answer question) {goal : Goal}
    (found : (goal.tried ask).outcome = .ok false) : ¬ goal.Holds answer := by
  induction goal with
  | decided holds => simpa [tried, Holds] using found
  | stuck cause => simp [tried] at found
  | compare question => exact sound question found
  | both first second ihFirst ihSecond =>
      rintro ⟨first_holds, second_holds⟩
      rcases Run.outcome_followedBy_eq_ok.mp found with ⟨_, second_found⟩ | ⟨first_found, _⟩
      · exact ihSecond second_found second_holds
      · exact ihFirst first_found first_holds
  | either first second ihFirst ihSecond =>
      rcases Run.outcome_followedBy_eq_ok.mp found with ⟨first_found, second_found⟩ | ⟨_, ne⟩
      · exact not_or.mpr ⟨ihFirst first_found, ihSecond () second_found⟩
      · exact absurd rfl ne

end Goal

namespace Graph

/-- Every question about identities in use. -/
def questions (graph : Graph) : List Question :=
  let ids := (List.range graph.size).map TypeId.mk
  ([Relation.ofType, .assignableTo] ×ˢ [Mode.bound, .infer, .reverse] ×ˢ ids ×ˢ ids).map
    fun key => { relation := key.1, mode := key.2.1, target := key.2.2.1, source := key.2.2.2 }

theorem length_questions (graph : Graph) :
    graph.questions.length = 6 * graph.size * graph.size := by
  simp only [questions, List.length_map, List.length_product, List.length_range, List.length_cons,
    List.length_nil]
  ring

theorem mem_questions {graph : Graph} {question : Question} :
    question ∈ graph.questions ↔
      question.target.raw < graph.size ∧ question.source.raw < graph.size := by
  obtain ⟨relation, ⟨target⟩, ⟨source⟩, mode⟩ := question
  constructor
  · intro member
    obtain ⟨⟨_, _, _, _⟩, found, eq⟩ := List.mem_map.mp member
    simp only [Question.mk.injEq] at eq
    obtain ⟨rfl, rfl, rfl, rfl⟩ := eq
    simpa [List.mem_product] using (List.mem_product.mp (List.mem_product.mp found).2).2
  · rintro ⟨target_lt, source_lt⟩
    refine List.mem_map.mpr ⟨(relation, mode, ⟨target⟩, ⟨source⟩), ?_, rfl⟩
    refine List.mem_product.mpr ⟨?_, List.mem_product.mpr ⟨?_, List.mem_product.mpr ⟨?_, ?_⟩⟩⟩
    · cases relation <;> simp
    · cases mode <;> simp
    · simpa using target_lt
    · simpa using source_lt

theorem step_eq_reduced_iff {graph : Graph} {question : Question} {goal : Goal} :
    graph.step question = .reduced goal ↔
      ∃ targetNode sourceNode, graph.node question.target = some targetNode ∧
        graph.node question.source = some sourceNode ∧
        atOnce? question targetNode sourceNode = none ∧
        graph.goal question targetNode sourceNode = goal := by
  rw [step]
  cases graph.node question.target with
  | none => simp
  | some targetNode =>
      cases graph.node question.source with
      | none => simp
      | some sourceNode => cases settled : atOnce? question targetNode sourceNode <;> simp [settled]

/-- Only questions between defined types reduce to goals. -/
theorem mem_questions_of_reduced {graph : Graph} {question : Question} {goal : Goal}
    (reduced : graph.step question = .reduced goal) : question ∈ graph.questions := by
  obtain ⟨targetNode, sourceNode, target_eq, source_eq, -⟩ := step_eq_reduced_iff.mp reduced
  refine mem_questions.mpr ⟨?_, ?_⟩
  · by_contra outside
    simp [graph.node_eq_none question.target (not_lt.mp outside)] at target_eq
  · by_contra outside
    simp [graph.node_eq_none question.source (not_lt.mp outside)] at source_eq

/-- Opening one more question leaves fewer that may still be opened. -/
theorem fewer_left {graph : Graph} {opened : List Question} {question : Question}
    (member : question ∈ graph.questions) (fresh : question ∉ opened) :
    (graph.questions.filter (· ∉ question :: opened)).length <
      (graph.questions.filter (· ∉ opened)).length := by
  have sub : List.Sublist (graph.questions.filter (· ∉ question :: opened))
      (graph.questions.filter (· ∉ opened)) := by
    refine List.monotone_filter_right _ fun other unopened => ?_
    simp only [List.mem_cons, not_or, decide_eq_true_eq] at unopened ⊢
    exact unopened.2
  refine lt_of_le_of_ne sub.length_le fun eq => ?_
  have left : question ∈ graph.questions.filter (· ∉ question :: opened) := by
    rw [sub.eq_of_length eq]
    simpa [member] using fresh
  simp at left

/-- The run of a question while others are open. -/
def run (graph : Graph) (opened : List Question) (question : Question) : Run :=
  match _ : graph.step question with
  | .settled outcome => ⟨outcome, []⟩
  | .reduced goal =>
      if _ : question ∈ opened then ⟨.ok true, [opened.length]⟩
      else (goal.tried (graph.run (question :: opened))).within opened.length
termination_by (graph.questions.filter (· ∉ opened)).length
decreasing_by exact fewer_left (mem_questions_of_reduced ‹_›) ‹_›

variable {graph : Graph} {opened : List Question} {question : Question}

theorem run_of_settled {outcome : Except Indeterminate Bool}
    (settled : graph.step question = .settled outcome) :
    graph.run opened question = ⟨outcome, []⟩ := by
  rw [run]
  split
  · next found eq => rw [settled, Step.settled.injEq] at eq; rw [eq]
  · next goal eq => rw [settled] at eq; cases eq

theorem run_of_open {goal : Goal} (reduced : graph.step question = .reduced goal)
    (known : question ∈ opened) : graph.run opened question = ⟨.ok true, [opened.length]⟩ := by
  rw [run]
  split
  · next outcome eq => rw [reduced] at eq; cases eq
  · rw [dif_pos known]

theorem run_of_fresh {goal : Goal} (reduced : graph.step question = .reduced goal)
    (fresh : question ∉ opened) :
    graph.run opened question =
      (goal.tried (graph.run (question :: opened))).within opened.length := by
  rw [run]
  split
  · next outcome eq => rw [reduced] at eq; cases eq
  · next found eq =>
      rw [reduced, Step.reduced.injEq] at eq
      rw [dif_neg fresh, eq]

/-- What holds of settled questions, of questions that are open already and of those that are
opened, if it holds of what they reduce to, holds of every question. -/
theorem run_induction (graph : Graph) {motive : List Question → Question → Prop}
    (settled : ∀ opened question outcome, graph.step question = .settled outcome →
      motive opened question)
    (known : ∀ opened question goal, graph.step question = .reduced goal → question ∈ opened →
      motive opened question)
    (fresh : ∀ opened question goal, graph.step question = .reduced goal → question ∉ opened →
      (∀ other, motive (question :: opened) other) → motive opened question)
    (opened : List Question) (question : Question) : motive opened question := by
  induction opened, question using run.induct graph with
  | case1 opened question outcome eq => exact settled opened question outcome eq
  | case2 opened question goal eq member => exact known opened question goal eq member
  | case3 opened question goal eq unopened ih => exact fresh opened question goal eq unopened ih

end Graph
end JavaTypes
