import JavaTypes.Assignability
import JavaTypes.Guard
import JavaTypes.Limits

/-!
# Answering questions

A question is settled by its two nodes or reduces to a goal, which is tried in turn.  Graphs may be
cyclic, so a question that comes up while it is being answered is assumed to hold; and answering is
bounded, so that a question may also end without an answer.
-/

namespace JavaTypes

/-- What becomes of a question at first sight. -/
inductive Step where
  | settled (outcome : Except Indeterminate Bool)
  | reduced (goal : Goal)

namespace Graph

/-- An answer that two nodes give at once, by the rules of the relation. -/
def atOnce? (question : Question) (targetNode sourceNode : Node) : Option Bool :=
  match question.relation with
  | .ofType => question.equalAtOnce? targetNode sourceNode
  | .assignableTo => question.assignableAtOnce? targetNode sourceNode

/-- The goal that a question reduces to, by the rules of the relation. -/
def goal (graph : Graph) (question : Question) (targetNode sourceNode : Node) : Goal :=
  match question.relation with
  | .ofType => graph.equalityGoal question targetNode sourceNode
  | .assignableTo => graph.assignabilityGoal question targetNode sourceNode

/-- Looks at the nodes of a question, the target first. -/
def step (graph : Graph) (question : Question) : Step :=
  match graph.node question.target, graph.node question.source with
  | none, _ => .settled (.error (.danglingType question.target))
  | some _, none => .settled (.error (.danglingType question.source))
  | some targetNode, some sourceNode =>
    match atOnce? question targetNode sourceNode with
    | some answer => .settled (.ok answer)
    | none => .reduced (graph.goal question targetNode sourceNode)

/-- Answers a question with `room` more questions allowed to be open.  Of two bounds that are
exceeded together the number of questions counts. -/
def check (graph : Graph) (limits : Limits) : Nat → Question → Search Bool
  | room, question, guard =>
    match graph.step question with
    | .settled outcome => (outcome, guard)
    | .reduced goal =>
      let asked := guard.ask
      if limits.exhausted asked.entries then
        (.error (.iterationsExceeded limits.maxIterations), asked)
      else
        match room with
        | 0 => (.error (.depthExceeded limits.maxDepth), asked)
        | room + 1 =>
          if question ∈ asked.active then (.ok true, asked.assume question)
          else
            match goal.solve (check graph limits room) (asked.enter question) with
            | (outcome, after) => (outcome, after.leave question)

/-- Answers a question within the given limits, of which the open questions use up a part. -/
def ask (graph : Graph) (limits : Limits) (question : Question) : Search Bool := fun guard =>
  graph.check limits (limits.maxDepth.toNat - guard.depth) question guard

/-- Tries a goal within the given limits. -/
def prove (graph : Graph) (limits : Limits) (goal : Goal) : Search Bool :=
  goal.solve (graph.ask limits)

end Graph
end JavaTypes
