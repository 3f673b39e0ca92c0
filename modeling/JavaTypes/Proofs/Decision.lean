import JavaTypes.Proofs.Budget
import JavaTypes.Proofs.Causes
import JavaTypes.Store.Operation

/-!
# Enough room for every question

The open questions differ from each other and are between types that are defined.  Of two types
there are six questions, so that a graph of `n` types never has more than `6 * n * n` open: with
room for more, every search ends by its own means.
-/

namespace JavaTypes
namespace Goal

theorem mem_depths_of_tried {ask : Question → Run} {goal : Goal} {depth : Nat}
    (member : depth ∈ (goal.tried ask).depths) : ∃ question, depth ∈ (ask question).depths := by
  induction goal with
  | decided answer => simp [tried] at member
  | stuck cause => simp [tried] at member
  | compare question => exact ⟨question, member⟩
  | both first second ihFirst ihSecond =>
      rcases Run.mem_depths_of_followedBy member with first_mem | second_mem
      · exact ihFirst first_mem
      · exact ihSecond second_mem
  | either first second ihFirst ihSecond =>
      rcases Run.mem_depths_of_followedBy member with first_mem | second_mem
      · exact ihFirst first_mem
      · exact ihSecond () second_mem

end Goal

namespace Graph

variable {graph : Graph} {question : Question}

/-- No more questions are ever open than there are questions. -/
theorem depth_le_of_mem_run {opened : List Question} {depth : Nat} (distinct : opened.Nodup)
    (inside : ∀ other ∈ opened, other ∈ graph.questions)
    (member : depth ∈ (graph.run opened question).depths) : depth ≤ graph.questions.length := by
  induction opened, question using graph.run_induction with
  | settled opened question outcome settled =>
      rw [run_of_settled settled] at member
      exact absurd member List.not_mem_nil
  | known opened question goal reduced known =>
      rw [run_of_open reduced known] at member
      rw [List.mem_singleton.mp member]
      exact distinct.length_le_of_subset inside
  | fresh opened question goal reduced fresh ih =>
      rw [run_of_fresh reduced fresh] at member
      have distinct_next : (question :: opened).Nodup := List.nodup_cons.mpr ⟨fresh, distinct⟩
      have inside_next : ∀ other ∈ question :: opened, other ∈ graph.questions :=
        List.forall_mem_cons.mpr ⟨mem_questions_of_reduced reduced, inside⟩
      rcases List.mem_cons.mp member with rfl | later
      · exact distinct.length_le_of_subset inside
      · obtain ⟨other, other_mem⟩ := Goal.mem_depths_of_tried later
        exact ih other distinct_next inside_next other_mem

theorem reach_run_le (graph : Graph) (question : Question) :
    (graph.run [] question).reach ≤ 6 * graph.size * graph.size + 1 := by
  refine Run.reach_le_iff.mpr fun depth member => Nat.lt_succ_of_le ?_
  rw [← graph.length_questions]
  exact depth_le_of_mem_run List.nodup_nil (by simp) member

end Graph

namespace Handle

/-- With room for more open questions than a store can have and no bound on their number, a search
always ends with an answer or with something that the store lacks. -/
theorem tryAnswer_of_deep_limit (store : Store) (limits : Limits) (question : Question)
    (deep : 6 * store.size * store.size < limits.maxDepth.toNat)
    (unbounded : limits.maxIterations = 4294967295) :
    (∃ holds, tryAnswer { env := store.environment, limits } question = .ok (.truth holds)) ∨
      (∃ id, tryAnswer { env := store.environment, limits } question = .error (.danglingType id)) ∨
      ∃ id, tryAnswer { env := store.environment, limits } question =
        .error (.notFullyQualified id) := by
  have suffice : limits.Suffice (store.environment.toGraph.run [] question) :=
    ⟨(store.environment.toGraph.reach_run_le question).trans deep, Or.inl unbounded⟩
  rw [tryAnswer_of_suffice suffice]
  cases ended : (store.environment.toGraph.run [] question).outcome with
  | ok holds => exact Or.inl ⟨holds, rfl⟩
  | error cause =>
      have lacks := Graph.lacks_of_run ended
      cases cause with
      | danglingType id => exact Or.inr (Or.inl ⟨id, rfl⟩)
      | notFullyQualified id => exact Or.inr (Or.inr ⟨id, rfl⟩)
      | depthExceeded limit => exact lacks.elim
      | iterationsExceeded limit => exact lacks.elim

/-- A store with two array types, each of which is the element of the other. -/
def mutualArrays : Store :=
  Store.empty.run [.reserve, .add (.array ⟨13⟩), .define ⟨13⟩ (.array ⟨14⟩)]

theorem tryAnswer_of_mutualArrays :
    6 * mutualArrays.size * mutualArrays.size < UInt32.toNat 2000 ∧
      ((∃ holds, tryAnswer { env := mutualArrays.environment, limits := ⟨2000, 4294967295⟩ }
          { relation := .ofType, target := ⟨13⟩, source := ⟨14⟩, mode := .bound } =
            .ok (.truth holds)) ∨
        (∃ id, tryAnswer { env := mutualArrays.environment, limits := ⟨2000, 4294967295⟩ }
          { relation := .ofType, target := ⟨13⟩, source := ⟨14⟩, mode := .bound } =
            .error (.danglingType id)) ∨
        ∃ id, tryAnswer { env := mutualArrays.environment, limits := ⟨2000, 4294967295⟩ }
          { relation := .ofType, target := ⟨13⟩, source := ⟨14⟩, mode := .bound } =
            .error (.notFullyQualified id)) :=
  ⟨by decide, tryAnswer_of_deep_limit mutualArrays ⟨2000, 4294967295⟩ _ (by decide) rfl⟩

end Handle
end JavaTypes
