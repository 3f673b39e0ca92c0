import JavaTypes.Proofs.Budget
import JavaTypes.Proofs.Causes

/-!
# Searches through candidates

A search through candidates tries the goal of each until one holds.  Between two questions nothing
is open, so that what it finds out is what each question is answered on its own.
-/

namespace JavaTypes
namespace Goal

open Limits.Follows

variable {ask : Question → Search Bool} {kept : Guard → Prop} {answer : Question → Prop}
  {guard : Guard} {goal : Goal}

theorem continued_eq_ok {turning found : Bool}
    {next : Guard → Except Indeterminate Bool × Guard}
    {result : Except Indeterminate Bool × Guard} :
    (continued turning next result).1 = .ok found ↔
      result.1 = .ok turning ∧ (next result.2).1 = .ok found ∨
        result.1 = .ok found ∧ found ≠ turning := by
  rw [continued]
  cases ended : result.1 with
  | error cause => simp [ended]
  | ok first =>
      rcases eq_or_ne first turning with rfl | other
      · have same_only : first = found → found ≠ first → (next result.2).1 = .ok found :=
          fun eq ne => absurd eq.symm ne
        simpa using same_only
      · have turned : first = found → found ≠ turning := fun eq => eq ▸ other
        simpa [other, ended] using turned

theorem continued_eq_error {turning : Bool} {cause : Indeterminate}
    {next : Guard → Except Indeterminate Bool × Guard}
    {result : Except Indeterminate Bool × Guard} :
    (continued turning next result).1 = .error cause ↔
      result.1 = .error cause ∨ result.1 = .ok turning ∧ (next result.2).1 = .error cause := by
  rw [continued]
  cases ended : result.1 with
  | error other => simp [ended]
  | ok first => by_cases same : first = turning <;> simp [same, ended]

theorem continued_keeps {turning : Bool} {next : Guard → Except Indeterminate Bool × Guard}
    {result : Except Indeterminate Bool × Guard}
    (next_keeps : ∀ guard, kept guard → kept (next guard).2) (result_kept : kept result.2) :
    kept (continued turning next result).2 := by
  rw [continued]
  split
  · split
    · exact next_keeps _ result_kept
    · exact result_kept
  · exact result_kept

/-- Trying a goal keeps what asking questions keeps. -/
theorem solve_keeps (keeps : ∀ question guard, kept guard → kept (ask question guard).2)
    (goal : Goal) (start : kept guard) : kept (goal.solve ask guard).2 := by
  induction goal generalizing guard with
  | decided _ | stuck _ => exact start
  | compare question => exact keeps question guard start
  | both first second ihFirst ihSecond =>
      rw [solve_both]
      exact continued_keeps (fun _ => ihSecond) (ihFirst start)
  | either first second ihFirst ihSecond =>
      rw [solve_either]
      exact continued_keeps (fun _ => ihSecond ()) (ihFirst start)

/-- Trying candidates keeps what asking questions keeps. -/
theorem firstHolding_keeps (keeps : ∀ question guard, kept guard → kept (ask question guard).2)
    (candidates : LazyList (TypeId × Goal)) (start : kept guard) :
    kept (firstHolding ask candidates guard).2 := by
  induction candidates generalizing guard with
  | nil => exact start
  | cons entry rest ih =>
      obtain ⟨candidate, goal⟩ := entry
      have after_kept : kept (goal.solve ask guard).2 := solve_keeps keeps goal start
      rw [firstHolding]
      split
      · next after solved => rwa [solved] at after_kept
      · next after solved => exact ih () (by rwa [solved] at after_kept)
      · next cause after solved => rwa [solved] at after_kept

/-- A goal that gets an answer holds or does not as it says, if what asking answers is right. -/
theorem holds_iff_of_solve (keeps : ∀ question guard, kept guard → kept (ask question guard).2)
    (right : ∀ question guard holds, kept guard → (ask question guard).1 = .ok holds →
      (answer question ↔ holds = true))
    (start : kept guard) {holds : Bool} (found : (goal.solve ask guard).1 = .ok holds) :
    goal.Holds answer ↔ holds = true := by
  induction goal generalizing guard holds with
  | decided decision => simpa [solve, Holds, eq_comm] using found
  | stuck cause => simp [solve] at found
  | compare question => exact right question guard holds start found
  | both first second ihFirst ihSecond =>
      rw [solve_both, continued_eq_ok] at found
      rcases found with ⟨first_found, second_found⟩ | ⟨first_found, ne⟩
      · have first_holds := (ihFirst start first_found).mpr rfl
        exact (and_iff_right first_holds).trans
          (ihSecond (solve_keeps keeps first start) second_found)
      · obtain rfl := eq_false_of_ne_true ne
        exact iff_of_false (fun both => Bool.false_ne_true ((ihFirst start first_found).mp both.1))
          Bool.false_ne_true
  | either first second ihFirst ihSecond =>
      rw [solve_either, continued_eq_ok] at found
      rcases found with ⟨first_found, second_found⟩ | ⟨first_found, ne⟩
      · have first_fails := mt (ihFirst start first_found).mp Bool.false_ne_true
        exact (or_iff_right first_fails).trans
          (ihSecond () (solve_keeps keeps first start) second_found)
      · obtain rfl := eq_true_of_ne_false ne
        exact iff_of_true (Or.inl ((ihFirst start first_found).mpr rfl)) rfl

open scoped Classical in
/-- What a search through candidates finds is the first one whose goal holds, and nothing only if
there is none. -/
theorem find?_of_firstHolding (keeps : ∀ question guard, kept guard → kept (ask question guard).2)
    (right : ∀ question guard holds, kept guard → (ask question guard).1 = .ok holds →
      (answer question ↔ holds = true))
    {candidates : LazyList (TypeId × Goal)} {result : Option TypeId} (start : kept guard)
    (found : (firstHolding ask candidates guard).1 = .ok result) :
    (candidates.toList.find? fun entry => entry.2.Holds answer).map Prod.fst = result := by
  induction candidates generalizing guard with
  | nil => simpa [firstHolding, LazyList.toList] using found
  | cons entry rest ih =>
      obtain ⟨candidate, goal⟩ := entry
      have after_kept : kept (goal.solve ask guard).2 := solve_keeps keeps goal start
      rw [firstHolding] at found
      rw [LazyList.toList, List.find?_cons]
      split at found
      · next after solved =>
          have holds := (holds_iff_of_solve keeps right start (congrArg Prod.fst solved)).mpr rfl
          simpa [holds] using found
      · next after solved =>
          have fails : ¬ goal.Holds answer :=
            mt (holds_iff_of_solve keeps right start (congrArg Prod.fst solved)).mp
              Bool.false_ne_true
          rw [solved] at after_kept
          simpa [fails] using ih () after_kept found
      · cases found

/-- A goal that gets no answer fails for a cause that it mentions itself or that comes of asking. -/
theorem fails_of_solve {asks : Question → Prop} {fails : Indeterminate → Prop}
    {cause : Indeterminate} (keeps : ∀ question guard, kept guard → kept (ask question guard).2)
    (ask_fails : ∀ question guard, kept guard → asks question →
      (ask question guard).1 = .error cause → fails cause)
    (mentions : goal.Mentions asks fails) (start : kept guard)
    (failed : (goal.solve ask guard).1 = .error cause) : fails cause := by
  induction goal generalizing guard with
  | decided decision => simp [solve] at failed
  | stuck other =>
      rw [solve, Except.error.injEq] at failed
      exact failed ▸ mentions
  | compare question => exact ask_fails question guard start mentions failed
  | both first second ihFirst ihSecond =>
      rw [solve_both, continued_eq_error] at failed
      rcases failed with first_failed | ⟨-, second_failed⟩
      · exact ihFirst mentions.1 start first_failed
      · exact ihSecond mentions.2 (solve_keeps keeps first start) second_failed
  | either first second ihFirst ihSecond =>
      rw [solve_either, continued_eq_error] at failed
      rcases failed with first_failed | ⟨-, second_failed⟩
      · exact ihFirst mentions.1 start first_failed
      · exact ihSecond () mentions.2 (solve_keeps keeps first start) second_failed

/-- A search through candidates that breaks off does so for a cause of one of their goals. -/
theorem fails_of_firstHolding {asks : Question → Prop} {fails : Indeterminate → Prop}
    {cause : Indeterminate} (keeps : ∀ question guard, kept guard → kept (ask question guard).2)
    (ask_fails : ∀ question guard, kept guard → asks question →
      (ask question guard).1 = .error cause → fails cause)
    {candidates : LazyList (TypeId × Goal)}
    (mentions : ∀ entry ∈ candidates.toList, entry.2.Mentions asks fails) (start : kept guard)
    (failed : (firstHolding ask candidates guard).1 = .error cause) : fails cause := by
  induction candidates generalizing guard with
  | nil => simp [firstHolding] at failed
  | cons entry rest ih =>
      obtain ⟨candidate, goal⟩ := entry
      obtain ⟨goal_mentions, rest_mentions⟩ := List.forall_mem_cons.mp mentions
      have after_kept : kept (goal.solve ask guard).2 := solve_keeps keeps goal start
      rw [firstHolding] at failed
      split at failed
      · cases failed
      · next after solved =>
          rw [solved] at after_kept
          exact ih () rest_mentions after_kept failed
      · next other after solved =>
          obtain rfl : other = cause := Except.error.inj failed
          exact fails_of_solve keeps ask_fails goal_mentions start (congrArg Prod.fst solved)

/-- The first of several candidates whose goal holds, after `made` questions, where `ask` gives the
run of a question. -/
def firstFound (limits : Limits) (ask : Question → Run) :
    Nat → List (TypeId × Goal) → Except Indeterminate (Option TypeId)
  | _, [] => .ok none
  | made, (candidate, goal) :: rest =>
      match limits.outcome made (goal.tried ask) with
      | .ok true => .ok (some candidate)
      | .ok false => firstFound limits ask (made + (goal.tried ask).entries) rest
      | .error cause => .error cause

/-- After more questions the same candidate is found, or there are too many questions before. -/
theorem firstFound_of_more {limits : Limits} {run : Question → Run} {made more : Nat}
    (le : made ≤ more) (candidates : List (TypeId × Goal)) :
    firstFound limits run more candidates = firstFound limits run made candidates ∨
      firstFound limits run more candidates =
        .error (.iterationsExceeded limits.maxIterations) := by
  induction candidates generalizing made more with
  | nil => exact Or.inl rfl
  | cons entry rest ih =>
      obtain ⟨candidate, goal⟩ := entry
      rw [firstFound, firstFound]
      rcases Limits.outcome_of_more le (goal.tried run) with same | cut
      · rw [same]
        cases limits.outcome made (goal.tried run) with
        | error cause => exact Or.inl rfl
        | ok found =>
            cases found with
            | true => exact Or.inl rfl
            | false => exact ih (Nat.add_le_add_right le _)
      · rw [cut]
        exact Or.inr rfl

end Goal

/-- A search through candidates goes through the runs of their goals. -/
theorem Graph.firstHolding_eq_firstFound {graph : Graph} {limits : Limits} {guard : Guard}
    {opened : List Question} (tracks : guard.Tracks opened) (candidates : LazyList (TypeId × Goal)) :
    (Goal.firstHolding (graph.ask limits) candidates guard).1 =
      Goal.firstFound limits (graph.run opened) guard.entries candidates.toList := by
  induction candidates generalizing guard with
  | nil => rfl
  | cons entry rest ih =>
      obtain ⟨candidate, goal⟩ := entry
      have follows := Goal.solve_follows
        (fun question _ => graph.ask_follows_of_tracks limits question) goal tracks
      rw [Goal.firstHolding, LazyList.toList, Goal.firstFound, ← follows.outcome]
      rcases solved : goal.solve (graph.ask limits) guard with ⟨outcome, after⟩
      rw [solved] at follows
      cases outcome with
      | error cause => rfl
      | ok found =>
          cases found with
          | true => rfl
          | false =>
              have ended : .ok false = limits.outcome guard.entries (goal.tried (graph.run opened)) :=
                follows.outcome
              have within : limits.exceeded? guard.entries (goal.tried (graph.run opened)).depths =
                  none := by
                rw [Limits.outcome] at ended
                split at ended
                · cases ended
                · assumption
              have counted : after.entries = _ := follows.entries within
              rw [← counted]
              exact ih () (tracks.of_active_eq follows.active)

/-- Searches leave no question open between two questions that they ask. -/
theorem Graph.tracks_ask {graph : Graph} {limits : Limits} {question : Question} {guard : Guard}
    (tracks : guard.Tracks []) : (graph.ask limits question guard).2.Tracks [] :=
  tracks.of_active_eq (graph.ask_follows_of_tracks limits question tracks).active

namespace Handle

open scoped Classical in
/-- What a handle finds by a search through candidates is the first one whose goal holds, where
questions count as it answers them on their own. -/
theorem find?_of_firstHolding {handle : Handle} {candidates : LazyList (TypeId × Goal)}
    {result : Option TypeId}
    (found : (Goal.firstHolding (handle.env.toGraph.ask handle.limits) candidates {}).1 =
      .ok result) :
    (candidates.toList.find? fun entry =>
      entry.2.Holds fun question => handle.tryAnswer question = .ok (.truth true)).map Prod.fst =
        result := by
  have keeps : ∀ question guard, Guard.Tracks guard [] →
      (handle.env.toGraph.ask handle.limits question guard).2.Tracks [] :=
    fun _ _ => Graph.tracks_ask
  have right : ∀ question guard holds, Guard.Tracks guard [] →
      (handle.env.toGraph.ask handle.limits question guard).1 = .ok holds →
      (handle.tryAnswer question = .ok (.truth true) ↔ holds = true) := by
    intro question guard holds tracks answered
    rw [tryAnswer_of_ask tracks answered]
    simp
  exact Goal.find?_of_firstHolding keeps right Guard.tracks_nil found

theorem holds_of_firstHolding {handle : Handle} {candidates : LazyList (TypeId × Goal)}
    {candidate : TypeId}
    (found : (Goal.firstHolding (handle.env.toGraph.ask handle.limits) candidates {}).1 =
      .ok (some candidate)) :
    ∃ goal, (candidate, goal) ∈ candidates.toList ∧
      goal.Holds fun question => handle.tryAnswer question = .ok (.truth true) := by
  obtain ⟨entry, first, rfl⟩ := Option.map_eq_some_iff.mp (find?_of_firstHolding found)
  exact ⟨entry.2, List.mem_of_find?_eq_some first, by simpa using List.find?_some first⟩

end Handle
end JavaTypes
