import JavaTypes.Handle
import JavaTypes.Proofs.Run

/-!
# Searches under limits

A search under limits goes as the run without limits does, up to the first question that exceeds a
limit.  Whatever becomes of it, it leaves the open questions as it found them.
-/

namespace JavaTypes
namespace Limits

/-- Whether a number of questions may be asked.  The largest number of thirty-two bits stands for
no bound. -/
def Permits (limits : Limits) (count : Nat) : Prop :=
  limits.maxIterations = 4294967295 ∨ count ≤ limits.maxIterations.toNat

/-- Which limit another question exceeds after `made` questions and while `depth` are open.  Of
both, the number of questions counts. -/
def exceededAt? (limits : Limits) (made depth : Nat) : Option Indeterminate :=
  if limits.exhausted (made + 1) then some (.iterationsExceeded limits.maxIterations)
  else if limits.maxDepth.toNat ≤ depth then some (.depthExceeded limits.maxDepth)
  else none

/-- Which limit is exceeded first by questions that are asked after `made` others, given how many
are open at each. -/
def exceeded? (limits : Limits) : Nat → List Nat → Option Indeterminate
  | _, [] => none
  | made, depth :: depths => (limits.exceededAt? made depth).or (limits.exceeded? (made + 1) depths)

/-- How a run ends under limits, after `made` questions before it. -/
def outcome (limits : Limits) (made : Nat) (run : Run) : Except Indeterminate Bool :=
  match limits.exceeded? made run.depths with
  | some cause => .error cause
  | none => run.outcome

/-- Whether both limits reach as far as a run goes. -/
def Suffice (limits : Limits) (run : Run) : Prop :=
  run.reach ≤ limits.maxDepth.toNat ∧ limits.Permits run.entries

variable {limits : Limits}

theorem exhausted_eq_false_iff {count : Nat} :
    limits.exhausted count = false ↔ limits.Permits count := by
  have bounded : limits.maxIterations.toNat ≤ 2 ^ 32 - 1 :=
    Nat.le_sub_one_of_lt limits.maxIterations.toNat_lt
  have largest : limits.maxIterations = 4294967295 ↔ limits.maxIterations.toNat = 2 ^ 32 - 1 := by
    rw [← UInt32.toNat_inj]
    rfl
  rw [exhausted, decide_eq_false_iff_not, Permits, largest]
  omega

theorem exceeded?_append (made : Nat) (earlier later : List Nat) :
    limits.exceeded? made (earlier ++ later) =
      (limits.exceeded? made earlier).or (limits.exceeded? (made + earlier.length) later) := by
  induction earlier generalizing made with
  | nil => rfl
  | cons depth earlier ih =>
      simp only [List.cons_append, exceeded?, ih, Option.or_assoc, List.length_cons]
      rw [show made + 1 + earlier.length = made + (earlier.length + 1) by omega]

theorem exceededAt?_eq_none_iff {made depth : Nat} :
    limits.exceededAt? made depth = none ↔
      limits.Permits (made + 1) ∧ depth < limits.maxDepth.toNat := by
  rw [exceededAt?, ← exhausted_eq_false_iff]
  by_cases exhausted : limits.exhausted (made + 1)
  · simp [exhausted]
  · simp [exhausted]

theorem exceededAt?_eq_some_iff {made depth : Nat} {cause : Indeterminate} :
    limits.exceededAt? made depth = some cause ↔
      ¬ limits.Permits (made + 1) ∧ cause = .iterationsExceeded limits.maxIterations ∨
        limits.Permits (made + 1) ∧ limits.maxDepth.toNat ≤ depth ∧
          cause = .depthExceeded limits.maxDepth := by
  rw [exceededAt?, ← exhausted_eq_false_iff]
  by_cases exhausted : limits.exhausted (made + 1)
  · simp [exhausted, eq_comm]
  · simp [exhausted, eq_comm]

theorem Permits.of_le {count fewer : Nat} (permits : limits.Permits count) (le : fewer ≤ count) :
    limits.Permits fewer :=
  permits.imp_right le.trans

theorem permits_zero (limits : Limits) : limits.Permits 0 := Or.inr (Nat.zero_le _)

theorem Permits.of_larger {larger : Limits} {count : Nat} (permits : limits.Permits count)
    (le : limits.maxIterations ≤ larger.maxIterations) : larger.Permits count := by
  have le_toNat : limits.maxIterations.toNat ≤ larger.maxIterations.toNat :=
    UInt32.le_iff_toNat_le.mp le
  rcases permits with largest | within
  · have bounded := larger.maxIterations.toNat_lt
    have toNat_eq : limits.maxIterations.toNat = 2 ^ 32 - 1 := by rw [largest]; rfl
    have still_largest : larger.maxIterations.toNat = 2 ^ 32 - 1 := by omega
    exact Or.inl (UInt32.toNat_inj.mp still_largest)
  · exact Or.inr (within.trans le_toNat)

/-- No limit is exceeded if both reach as far as the questions go. -/
theorem exceeded?_eq_none_iff {made : Nat} (permitted : limits.Permits made) {depths : List Nat} :
    limits.exceeded? made depths = none ↔
      (∀ depth ∈ depths, depth < limits.maxDepth.toNat) ∧
        limits.Permits (made + depths.length) := by
  induction depths generalizing made with
  | nil => simpa [exceeded?] using permitted
  | cons depth depths ih =>
      have count_eq : made + (depths.length + 1) = made + 1 + depths.length := by omega
      rw [exceeded?, Option.or_eq_none_iff, exceededAt?_eq_none_iff, List.forall_mem_cons,
        List.length_cons, count_eq]
      constructor
      · rintro ⟨⟨next, shallow⟩, rest⟩
        obtain ⟨all_shallow, all_permitted⟩ := (ih next).mp rest
        exact ⟨⟨shallow, all_shallow⟩, all_permitted⟩
      · rintro ⟨⟨shallow, all_shallow⟩, all_permitted⟩
        have next : limits.Permits (made + 1) := all_permitted.of_le (Nat.le_add_right _ _)
        exact ⟨⟨next, shallow⟩, (ih next).mpr ⟨all_shallow, all_permitted⟩⟩

/-- What exceeds no limit after some questions exceeds none after fewer. -/
theorem exceeded?_eq_none_of_fewer {made fewer : Nat} (le : fewer ≤ made) {depths : List Nat}
    (within : limits.exceeded? made depths = none) : limits.exceeded? fewer depths = none := by
  induction depths generalizing made fewer with
  | nil => rfl
  | cons depth depths ih =>
      rw [exceeded?, Option.or_eq_none_iff, exceededAt?_eq_none_iff] at within ⊢
      obtain ⟨⟨permitted, shallow⟩, rest⟩ := within
      exact ⟨⟨permitted.of_le (Nat.succ_le_succ le), shallow⟩, ih (Nat.succ_le_succ le) rest⟩

/-- After more questions the same limits are exceeded, or the number of questions is before. -/
theorem exceeded?_of_more {made more : Nat} (le : made ≤ more) (depths : List Nat) :
    limits.exceeded? more depths = limits.exceeded? made depths ∨
      limits.exceeded? more depths = some (.iterationsExceeded limits.maxIterations) := by
  induction depths generalizing made more with
  | nil => exact Or.inl rfl
  | cons depth depths ih =>
      rw [exceeded?, exceeded?]
      by_cases permitted : limits.Permits (more + 1)
      · have at_once : limits.exceededAt? more depth = limits.exceededAt? made depth := by
          have earlier := permitted.of_le (Nat.succ_le_succ le)
          rw [← exhausted_eq_false_iff] at permitted earlier
          rw [exceededAt?, exceededAt?, permitted, earlier]
        rw [at_once]
        cases limits.exceededAt? made depth with
        | some cause => exact Or.inl rfl
        | none => simpa using ih (Nat.succ_le_succ le)
      · have cut : limits.exceededAt? more depth =
            some (.iterationsExceeded limits.maxIterations) :=
          exceededAt?_eq_some_iff.mpr (Or.inl ⟨permitted, rfl⟩)
        rw [cut, Option.some_or]
        exact Or.inr rfl

theorem outcome_of_more {made more : Nat} (le : made ≤ more) (run : Run) :
    limits.outcome more run = limits.outcome made run ∨
      limits.outcome more run = .error (.iterationsExceeded limits.maxIterations) := by
  rw [outcome, outcome]
  rcases exceeded?_of_more le run.depths with same | cut
  · exact Or.inl (by rw [same])
  · exact Or.inr (by rw [cut])

theorem outcome_of_fewer {made fewer : Nat} (le : fewer ≤ made) {run : Run} {answer : Bool}
    (answered : limits.outcome made run = .ok answer) :
    limits.outcome fewer run = .ok answer := by
  rw [outcome] at answered ⊢
  cases within : limits.exceeded? made run.depths with
  | some cause => simp [within] at answered
  | none => simpa [within, exceeded?_eq_none_of_fewer le within] using answered

/-- The limit that is exceeded first is exceeded at a question before which none is. -/
theorem exceeded?_eq_some {made : Nat} (permitted : limits.Permits made) {depths : List Nat}
    {cause : Indeterminate} (exceeded : limits.exceeded? made depths = some cause) :
    ∃ earlier depth later, depths = earlier ++ depth :: later ∧
      (∀ passed ∈ earlier, passed < limits.maxDepth.toNat) ∧
      limits.Permits (made + earlier.length) ∧
      limits.exceededAt? (made + earlier.length) depth = some cause := by
  induction depths generalizing made with
  | nil => simp [exceeded?] at exceeded
  | cons depth depths ih =>
      rw [exceeded?] at exceeded
      cases first : limits.exceededAt? made depth with
      | some found =>
          rw [first, Option.some_or] at exceeded
          exact ⟨[], depth, depths, rfl, by simp, permitted, first.trans exceeded⟩
      | none =>
          obtain ⟨next, shallow⟩ := exceededAt?_eq_none_iff.mp first
          rw [first, Option.none_or] at exceeded
          obtain ⟨earlier, last, later, rfl, all_shallow, all_permitted, at_last⟩ :=
            ih next exceeded
          have count_eq : made + (earlier.length + 1) = made + 1 + earlier.length := by omega
          refine ⟨depth :: earlier, last, later, rfl, ?_, ?_, ?_⟩
          · exact List.forall_mem_cons.mpr ⟨shallow, all_shallow⟩
          · rwa [List.length_cons, count_eq]
          · rwa [List.length_cons, count_eq]

theorem exceeded?_eq_none_iff_suffice {run : Run} :
    limits.exceeded? 0 run.depths = none ↔ limits.Suffice run := by
  rw [exceeded?_eq_none_iff limits.permits_zero, Nat.zero_add, Suffice, Run.reach_le_iff,
    Run.entries]

theorem Suffice.of_larger {larger : Limits} {run : Run} (suffice : limits.Suffice run)
    (depth_le : limits.maxDepth ≤ larger.maxDepth)
    (iterations_le : limits.maxIterations ≤ larger.maxIterations) : larger.Suffice run :=
  ⟨suffice.1.trans (UInt32.le_iff_toNat_le.mp depth_le), suffice.2.of_larger iterations_le⟩

end Limits

namespace Guard

/-- Whether the questions that a guard keeps open are those of a list without repetitions. -/
structure Tracks (guard : Guard) (opened : List Question) : Prop where
  mem_iff : ∀ question, question ∈ guard.active ↔ question ∈ opened
  depth_eq : guard.depth = opened.length

theorem tracks_nil : Tracks {} [] where
  mem_iff question := by simp
  depth_eq := rfl

theorem tracks_toList (guard : Guard) : guard.Tracks guard.active.toList where
  mem_iff _ := Std.ExtTreeSet.mem_toList.symm
  depth_eq := Std.ExtTreeSet.length_toList.symm

namespace Tracks

variable {guard after : Guard} {opened : List Question} {question : Question}

theorem of_active_eq (tracks : guard.Tracks opened) (same : after.active = guard.active) :
    after.Tracks opened where
  mem_iff other := same ▸ tracks.mem_iff other
  depth_eq := by rw [depth, same]; exact tracks.depth_eq

theorem enter (tracks : guard.Tracks opened) (fresh : question ∉ opened) :
    (guard.enter question).Tracks (question :: opened) where
  mem_iff other := by simp [Guard.enter, tracks.mem_iff, @eq_comm _ other]
  depth_eq := by
    have unopened : question ∉ guard.active := fun known => fresh ((tracks.mem_iff _).mp known)
    have size_eq : guard.active.size = opened.length := tracks.depth_eq
    simp [Guard.enter, depth, Std.ExtTreeSet.size_insert, unopened, size_eq]

end Tracks
end Guard

namespace Limits

/-- Whether a search that starts from one state goes as a run does, as far as the limits allow, and
leaves the open questions as it found them. -/
structure Follows (limits : Limits) (run : Run) (guard : Guard)
    (result : Except Indeterminate Bool × Guard) : Prop where
  active : result.2.active = guard.active
  outcome : result.1 = limits.outcome guard.entries run
  entries : limits.exceeded? guard.entries run.depths = none →
    result.2.entries = guard.entries + run.entries
  reach : limits.exceeded? guard.entries run.depths = none →
    result.2.reach = max guard.reach run.reach

namespace Follows

variable {limits : Limits} {guard : Guard} {first second : Run}
  {result : Except Indeterminate Bool × Guard}

/-- Going on with a second search after the first ended with the answer `turning`. -/
def continued (turning : Bool) (next : Guard → Except Indeterminate Bool × Guard)
    (result : Except Indeterminate Bool × Guard) : Except Indeterminate Bool × Guard :=
  match result.1 with
  | .ok answer => if answer = turning then next result.2 else result
  | .error _ => result

/-- A search that exceeds a limit at its first question. -/
theorem of_exceededAt {run : Run} {depths : List Nat} {cause : Indeterminate}
    (starts : run.depths = guard.depth :: depths)
    (cut : limits.exceededAt? guard.entries guard.depth = some cause) :
    limits.Follows run guard (.error cause, guard.ask) := by
  have cut_all : limits.exceeded? guard.entries run.depths = some cause := by
    rw [starts, exceeded?, cut, Option.some_or]
  exact
    { active := rfl
      outcome := by rw [Limits.outcome, cut_all]
      entries := by simp [cut_all]
      reach := by simp [cut_all] }

/-- A search that opens a question, goes on and closes it again. -/
theorem leave {run : Run} {question : Question}
    (kept : limits.exceededAt? guard.entries guard.depth = none) (unopened : question ∉ guard.active)
    (follows : limits.Follows run (guard.ask.enter question) result) :
    limits.Follows (run.within guard.depth) guard (result.1, result.2.leave question) := by
  have entered : (guard.ask.enter question).entries = guard.entries + 1 := rfl
  have rest : limits.exceeded? guard.entries (run.within guard.depth).depths =
      limits.exceeded? (guard.ask.enter question).entries run.depths := by
    rw [Run.within, exceeded?, kept, Option.none_or, entered]
  exact
    { active := by
        calc
          (result.2.leave question).active =
              ((guard.ask.enter question).leave question).active := by
            rw [Guard.leave, Guard.leave, follows.active]
          _ = guard.ask.active := guard.ask.leave_enter_active question unopened
      outcome := by rw [follows.outcome, Limits.outcome, Limits.outcome, rest, Run.within]
      entries := fun enough => by
        have counted := follows.entries (rest ▸ enough)
        rw [entered] at counted
        rw [Guard.leave, counted, Run.entries, Run.entries, Run.within, List.length_cons]
        omega
      reach := fun enough => by
        have reached := follows.reach (rest ▸ enough)
        rw [Guard.leave, reached, Run.reach, Run.reach, Run.within, List.foldr_cons, ← max_assoc,
          Guard.enter, Guard.ask] }

theorem exceeded?_followedBy {made : Nat} {cause : Indeterminate} {turning : Bool}
    (cut : limits.exceeded? made first.depths = some cause) :
    limits.exceeded? made (first.followedBy turning second).depths = some cause := by
  rw [Run.followedBy]
  split
  · split
    · rw [exceeded?_append, cut, Option.some_or]
    · exact cut
  · exact cut

theorem followedBy {turning : Bool} {next : Guard → Except Indeterminate Bool × Guard}
    (follows : limits.Follows first guard result)
    (next_follows : ∀ after : Guard, after.active = guard.active →
      limits.Follows second after (next after)) :
    limits.Follows (first.followedBy turning second) guard (continued turning next result) := by
  obtain ⟨outcome, after⟩ := result
  have active_eq : after.active = guard.active := follows.active
  have outcome_eq : outcome = limits.outcome guard.entries first := follows.outcome
  rw [Limits.outcome] at outcome_eq
  cases within : limits.exceeded? guard.entries first.depths with
  | some cause =>
      -- The first run is cut short, and so is the one that would have gone on.
      have cut : limits.exceeded? guard.entries (first.followedBy turning second).depths =
          some cause := exceeded?_followedBy within
      simp only [within] at outcome_eq
      exact
        { active := by simpa [continued, outcome_eq] using active_eq
          outcome := by simp [continued, outcome_eq, Limits.outcome, cut]
          entries := by simp [cut]
          reach := by simp [cut] }
  | none =>
      have entries_eq : after.entries = guard.entries + first.entries := follows.entries within
      have reach_eq : after.reach = max guard.reach first.reach := follows.reach within
      simp only [within] at outcome_eq
      rw [continued, Run.followedBy]
      cases ended : first.outcome with
      | error cause => simpa [outcome_eq, ended] using follows
      | ok answer =>
          by_cases same : answer = turning
          · have rest := next_follows after active_eq
            have split : limits.exceeded? guard.entries (first.depths ++ second.depths) =
                limits.exceeded? after.entries second.depths := by
              rw [exceeded?_append, within, Option.none_or, entries_eq, Run.entries]
            simp only [outcome_eq, ended, if_pos same]
            exact
              { active := rest.active.trans active_eq
                outcome := by rw [rest.outcome, Limits.outcome, Limits.outcome, split]
                entries := fun enough => by
                  rw [rest.entries (split ▸ enough), entries_eq, Nat.add_assoc]
                  simp [Run.entries]
                reach := fun enough => by
                  rw [rest.reach (split ▸ enough), reach_eq, Run.reach_append, max_assoc] }
          · simpa [outcome_eq, ended, same] using follows

end Follows
end Limits

namespace Goal

open Limits.Follows

theorem solve_both (ask : Question → Search Bool) (first second : Goal) (guard : Guard) :
    (both first second).solve ask guard =
      continued true (second.solve ask) (first.solve ask guard) := by
  rw [solve, continued]
  split <;> simp_all

theorem solve_either (ask : Question → Search Bool) (first : Goal) (second : Unit → Goal)
    (guard : Guard) :
    (either first second).solve ask guard =
      continued false ((second ()).solve ask) (first.solve ask guard) := by
  rw [solve, continued]
  split <;> simp_all

/-- Solving a goal goes as trying it without limits does, if answering questions does. -/
theorem solve_follows {limits : Limits} {opened : List Question} {ask : Question → Search Bool}
    {run : Question → Run}
    (ask_follows : ∀ question guard, Guard.Tracks guard opened →
      limits.Follows (run question) guard (ask question guard))
    (goal : Goal) {guard : Guard} (tracks : guard.Tracks opened) :
    limits.Follows (goal.tried run) guard (goal.solve ask guard) := by
  induction goal generalizing guard with
  | decided answer =>
      exact ⟨rfl, rfl, fun _ => rfl, fun _ => by simp [solve, tried, Run.reach]⟩
  | stuck cause => exact ⟨rfl, rfl, fun _ => rfl, fun _ => by simp [solve, tried, Run.reach]⟩
  | compare question => exact ask_follows question guard tracks
  | both first second ihFirst ihSecond =>
      rw [solve_both]
      exact followedBy (ihFirst tracks) fun after same => ihSecond (tracks.of_active_eq same)
  | either first second ihFirst ihSecond =>
      rw [solve_either]
      exact followedBy (ihFirst tracks) fun after same => ihSecond () (tracks.of_active_eq same)

end Goal

namespace Graph

variable {graph : Graph} {limits : Limits} {question : Question} {guard : Guard} {room : Nat}

theorem check_of_settled {outcome : Except Indeterminate Bool}
    (settled : graph.step question = .settled outcome) :
    graph.check limits room question guard = (outcome, guard) := by
  rw [check, settled]

/-- What becomes of a question that reduces to a goal. -/
theorem check_of_reduced {goal : Goal} (reduced : graph.step question = .reduced goal)
    (room_eq : room = limits.maxDepth.toNat - guard.depth) :
    graph.check limits room question guard =
      match limits.exceededAt? guard.entries guard.depth with
      | some cause => (.error cause, guard.ask)
      | none =>
          if question ∈ guard.active then (.ok true, guard.ask.assume question)
          else
            let result := goal.solve (graph.check limits (room - 1)) (guard.ask.enter question)
            (result.1, result.2.leave question) := by
  rw [check, reduced, Limits.exceededAt?]
  by_cases exhausted : limits.exhausted (guard.entries + 1)
  · simp [Guard.ask, exhausted]
  · cases room with
    | zero =>
        have deep : limits.maxDepth.toNat ≤ guard.depth := Nat.le_of_sub_eq_zero room_eq.symm
        simp [Guard.ask, exhausted, deep]
    | succ room =>
        have shallow : ¬ limits.maxDepth.toNat ≤ guard.depth := by omega
        by_cases known : question ∈ guard.active <;>
          simp [Guard.ask, exhausted, shallow, known]

/-- A search under limits goes as the run without limits does. -/
theorem check_follows (graph : Graph) (limits : Limits) (room : Nat) (question : Question)
    {guard : Guard} {opened : List Question} (tracks : guard.Tracks opened)
    (room_eq : room = limits.maxDepth.toNat - guard.depth) :
    limits.Follows (graph.run opened question) guard (graph.check limits room question guard) := by
  induction opened, question using graph.run_induction generalizing guard room with
  | settled opened question outcome settled =>
      rw [run_of_settled settled, check_of_settled settled]
      exact ⟨rfl, rfl, fun _ => rfl, fun _ => by simp [Run.reach]⟩
  | known opened question goal reduced known =>
      rw [run_of_open reduced known, check_of_reduced reduced room_eq, ← tracks.depth_eq]
      cases exceeded : limits.exceededAt? guard.entries guard.depth with
      | some cause => exact .of_exceededAt rfl exceeded
      | none =>
          have kept : limits.exceeded? guard.entries [guard.depth] = none := by
            rw [Limits.exceeded?, exceeded, Option.none_or, Limits.exceeded?]
          simp only [if_pos ((tracks.mem_iff question).mpr known)]
          exact
            { active := rfl
              outcome := by rw [Limits.outcome, kept]
              entries := fun _ => rfl
              reach := fun _ => by simp [Run.reach, Guard.assume, Guard.ask] }
  | fresh opened question goal reduced fresh ih =>
      rw [run_of_fresh reduced fresh, check_of_reduced reduced room_eq, ← tracks.depth_eq]
      cases exceeded : limits.exceededAt? guard.entries guard.depth with
      | some cause => exact .of_exceededAt rfl exceeded
      | none =>
          have unopened : question ∉ guard.active := mt (tracks.mem_iff question).mp fresh
          have asked : guard.ask.Tracks opened := tracks.of_active_eq rfl
          have entered : (guard.ask.enter question).Tracks (question :: opened) := asked.enter fresh
          have solved := Goal.solve_follows
            (fun other state known => ih other (room - 1) known (by
              have state_depth := known.depth_eq
              have guard_depth := tracks.depth_eq
              rw [List.length_cons] at state_depth
              omega)) goal entered
          simpa only [if_neg unopened] using solved.leave exceeded unopened

theorem ask_follows_of_tracks (graph : Graph) (limits : Limits) (question : Question)
    {guard : Guard} {opened : List Question} (tracks : guard.Tracks opened) :
    limits.Follows (graph.run opened question) guard (graph.ask limits question guard) :=
  graph.check_follows limits _ question tracks rfl

theorem ask_follows (graph : Graph) (limits : Limits) (question : Question) :
    limits.Follows (graph.run [] question) {} (graph.ask limits question {}) :=
  graph.ask_follows_of_tracks limits question Guard.tracks_nil

end Graph

theorem map_eq_ok_iff {α β ε : Type} {f : α → β} (distinct : Function.Injective f)
    {outcome : Except ε α} {found : α} : outcome.map f = .ok (f found) ↔ outcome = .ok found := by
  cases outcome with
  | error cause => simp [Except.map]
  | ok own => simp [Except.map, distinct.eq_iff]

theorem Answer.ok_truth_congr {first second : Bool} (same : first = second) :
    (.ok (.truth first) : Except Indeterminate Answer) = .ok (.truth second) := by
  rw [same]

/-- A query that is evaluated by a search is answered what the search finds. -/
theorem Evaluation.outcome_ofSearch_eq_ok {α : Type} {answer : α → Answer}
    (distinct : Function.Injective answer) {search : Search α} {found : α} :
    (ofSearch answer search).outcome = .ok (answer found) ↔ (search {}).1 = .ok found :=
  map_eq_ok_iff distinct

namespace Question

/-- The query that puts a question and is told why there is no answer. -/
def query (question : Question) : Query :=
  match question.relation with
  | .ofType => .tryOfType question.target question.source question.mode
  | .assignableTo => .tryAssignable question.target question.source question.mode

theorem evaluate_query (question : Question) (env : Environment) (limits : Limits) :
    question.query.evaluate env limits = .ofSearch .truth (env.toGraph.ask limits question) := by
  obtain ⟨relation, target, source, mode⟩ := question
  cases relation <;> rfl

theorem recordedAs?_query (question : Question) : question.query.recordedAs? = none := by
  obtain ⟨relation, target, source, mode⟩ := question
  cases relation <;> rfl

end Question

namespace Handle

/-- What a handle answers to a question, or why it does not. -/
def tryAnswer (handle : Handle) (question : Question) : Except Indeterminate Answer :=
  (handle.ask question.query).1.answer

theorem tryAnswer_eq (handle : Handle) (question : Question) :
    handle.tryAnswer question =
      (handle.limits.outcome 0 (handle.env.toGraph.run [] question)).map .truth := by
  have outcome_eq := (handle.env.toGraph.ask_follows handle.limits question).outcome
  have answer_eq : handle.tryAnswer question =
      (question.query.evaluate handle.env handle.limits).outcome := by
    rw [tryAnswer, ask, question.recordedAs?_query]
    split
    · next eq => cases eq
    · rfl
  rw [answer_eq, question.evaluate_query]
  exact congrArg (Except.map Answer.truth) outcome_eq

/-- An answer that a longer search gets with no question open is the answer to the question on its
own. -/
theorem tryAnswer_of_ask {handle : Handle} {question : Question} {guard : Guard} {answer : Bool}
    (tracks : guard.Tracks [])
    (answered : (handle.env.toGraph.ask handle.limits question guard).1 = .ok answer) :
    handle.tryAnswer question = .ok (.truth answer) := by
  rw [(handle.env.toGraph.ask_follows_of_tracks handle.limits question tracks).outcome] at answered
  rw [tryAnswer_eq, Limits.outcome_of_fewer (Nat.zero_le guard.entries) answered]
  rfl

theorem tryAnswer_of_suffice {handle : Handle} {question : Question}
    (suffice : handle.limits.Suffice (handle.env.toGraph.run [] question)) :
    handle.tryAnswer question = (handle.env.toGraph.run [] question).outcome.map .truth := by
  rw [tryAnswer_eq, Limits.outcome, Limits.exceeded?_eq_none_iff_suffice.mpr suffice]

/-- Only a run that the limits reach is answered. -/
theorem suffice_of_tryAnswer {handle : Handle} {question : Question} {answer : Answer}
    (answered : handle.tryAnswer question = .ok answer) :
    handle.limits.Suffice (handle.env.toGraph.run [] question) := by
  rw [tryAnswer_eq, Limits.outcome] at answered
  cases exceeded : handle.limits.exceeded? 0 (handle.env.toGraph.run [] question).depths with
  | some cause => simp [exceeded, Except.map] at answered
  | none => exact Limits.exceeded?_eq_none_iff_suffice.mp exceeded

theorem outcome_of_tryAnswer {handle : Handle} {question : Question} {answer : Bool}
    (answered : handle.tryAnswer question = .ok (.truth answer)) :
    (handle.env.toGraph.run [] question).outcome = .ok answer := by
  rw [tryAnswer_of_suffice (suffice_of_tryAnswer answered)] at answered
  exact (map_eq_ok_iff fun _ _ => Answer.truth.inj).mp answered

variable {env : Environment} {limits : Limits} {question : Question}

theorem tryAnswer_of_larger {larger : Limits} {answer : Answer}
    (answered : tryAnswer { env, limits } question = .ok answer)
    (depth_le : limits.maxDepth ≤ larger.maxDepth)
    (iterations_le : limits.maxIterations ≤ larger.maxIterations) :
    tryAnswer { env, limits := larger } question = .ok answer := by
  have suffice : limits.Suffice (env.toGraph.run [] question) := suffice_of_tryAnswer answered
  have still : larger.Suffice (env.toGraph.run [] question) :=
    suffice.of_larger depth_le iterations_le
  rw [tryAnswer_of_suffice suffice] at answered
  rw [tryAnswer_of_suffice still, answered]

theorem tryAnswer_of_not_suffice (exceeded : ¬ limits.Suffice (env.toGraph.run [] question)) :
    ∃ earlier depth later,
      (env.toGraph.run [] question).depths = earlier ++ depth :: later ∧
      (∀ passed ∈ earlier, passed < limits.maxDepth.toNat) ∧ limits.Permits earlier.length ∧
      (¬ limits.Permits (earlier.length + 1) ∧
          tryAnswer { env, limits } question =
            .error (.iterationsExceeded limits.maxIterations) ∨
        limits.Permits (earlier.length + 1) ∧ limits.maxDepth.toNat ≤ depth ∧
          tryAnswer { env, limits } question = .error (.depthExceeded limits.maxDepth)) := by
  obtain ⟨cause, cut⟩ :=
    Option.ne_none_iff_exists'.mp (mt Limits.exceeded?_eq_none_iff_suffice.mp exceeded)
  obtain ⟨earlier, depth, later, split, shallow, permitted, at_depth⟩ :=
    Limits.exceeded?_eq_some limits.permits_zero cut
  have answer_eq : tryAnswer { env, limits } question = .error cause := by
    rw [tryAnswer_eq, Limits.outcome, cut]
    rfl
  rw [Nat.zero_add] at permitted at_depth
  refine ⟨earlier, depth, later, split, shallow, permitted, ?_⟩
  rw [answer_eq]
  rcases Limits.exceededAt?_eq_some_iff.mp at_depth with
    ⟨refused, rfl⟩ | ⟨allowed, deep, rfl⟩
  · exact Or.inl ⟨refused, rfl⟩
  · exact Or.inr ⟨allowed, deep, rfl⟩

/-- A search ends as the run without limits does if both limits reach as far as that run, and then
it asks as many questions and gets as deep.  Otherwise it ends at the first question that exceeds a
limit, and reports the number of questions if that is exceeded.  So an answer under some limits is
the answer under all larger ones. -/
theorem tryAnswer_eq_run_or_first_exceeded (env : Environment) (limits : Limits)
    (question : Question) :
    let run := env.toGraph.run [] question
    let answer := tryAnswer { env, limits } question
    let guard := (question.query.evaluate env limits).guard
    (limits.Suffice run → answer = run.outcome.map .truth ∧ guard.entries = run.entries ∧
      guard.reach = run.reach) ∧
    (¬ limits.Suffice run → ∃ earlier depth later, run.depths = earlier ++ depth :: later ∧
      (∀ passed ∈ earlier, passed < limits.maxDepth.toNat) ∧ limits.Permits earlier.length ∧
      (¬ limits.Permits (earlier.length + 1) ∧
          answer = .error (.iterationsExceeded limits.maxIterations) ∨
        limits.Permits (earlier.length + 1) ∧ limits.maxDepth.toNat ≤ depth ∧
          answer = .error (.depthExceeded limits.maxDepth))) ∧
    ∀ larger : Limits, limits.maxDepth ≤ larger.maxDepth →
      limits.maxIterations ≤ larger.maxIterations → ∀ reply, answer = .ok reply →
        tryAnswer { env, limits := larger } question = .ok reply := by
  intro run answer guard
  have follows := env.toGraph.ask_follows limits question
  have guard_eq : guard = (env.toGraph.ask limits question {}).2 := by
    simp only [guard, question.evaluate_query, Evaluation.ofSearch]
  refine ⟨fun suffice => ⟨tryAnswer_of_suffice suffice, ?_, ?_⟩, tryAnswer_of_not_suffice, ?_⟩
  · have counted := follows.entries (Limits.exceeded?_eq_none_iff_suffice.mpr suffice)
    rw [guard_eq, counted]
    exact Nat.zero_add _
  · have reached := follows.reach (Limits.exceeded?_eq_none_iff_suffice.mpr suffice)
    rw [guard_eq, reached]
    exact Nat.zero_max _
  · intro larger depth_le iterations_le reply answered
    exact tryAnswer_of_larger answered depth_le iterations_le

end Handle
end JavaTypes
