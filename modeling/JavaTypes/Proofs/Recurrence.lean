import JavaTypes.Proofs.Balance

/-!
# Questions that come up again

A question that comes up while it is being answered is assumed to hold.  Which questions these are
can be told without a guard: the run without limits is retold with the questions that are being
answered whenever one comes up, and those that come up again are picked out as far as the limits
allow.  The record of a guard is exactly this account.
-/

namespace JavaTypes

/-- A question that comes up in a run. -/
structure Encounter where
  question : Question
  /-- The questions that are being answered then, the innermost first. -/
  opened : List Question
  deriving DecidableEq, Repr

namespace Encounter

/-- Whether the question is being answered already. -/
def recurs (encounter : Encounter) : Bool := encounter.question ∈ encounter.opened

/-- How many questions are being answered. -/
def depth (encounter : Encounter) : Nat := encounter.opened.length

end Encounter

/-- What answering comes to when no limit interferes, with everything that comes up on the way. -/
structure Story where
  outcome : Except Indeterminate Bool
  /-- What comes up, in order. -/
  encounters : List Encounter

namespace Story

/-- One story and then, if it ends with the answer `turning`, another. -/
def followedBy (first : Story) (turning : Bool) (second : Story) : Story :=
  match first.outcome with
  | .ok answer =>
      if answer = turning then ⟨second.outcome, first.encounters ++ second.encounters⟩ else first
  | .error _ => first

/-- A story that an encounter gives rise to. -/
def after (story : Story) (encounter : Encounter) : Story :=
  { story with encounters := encounter :: story.encounters }

/-- A story in which only the numbers of open questions are told. -/
def run (story : Story) : Run := ⟨story.outcome, story.encounters.map Encounter.depth⟩

theorem run_followedBy (first second : Story) (turning : Bool) :
    (first.followedBy turning second).run = first.run.followedBy turning second.run := by
  rw [followedBy, Run.followedBy]
  cases ended : first.outcome with
  | error cause => simp [run, ended]
  | ok answer => by_cases same : answer = turning <;> simp [run, ended, same]

theorem run_after (story : Story) (encounter : Encounter) :
    (story.after encounter).run = story.run.within encounter.depth := rfl

end Story

namespace Goal

/-- Tries a goal from left to right without limits, where `ask` tells the story of a question. -/
def told (ask : Question → Story) : Goal → Story
  | decided answer => ⟨.ok answer, []⟩
  | stuck cause => ⟨.error cause, []⟩
  | compare question => ask question
  | both first second => (first.told ask).followedBy true (second.told ask)
  | either first second => (first.told ask).followedBy false ((second ()).told ask)

theorem run_told (ask : Question → Story) (goal : Goal) :
    (goal.told ask).run = goal.tried fun question => (ask question).run := by
  induction goal with
  | decided _ | stuck _ | compare _ => rfl
  | both first second ihFirst ihSecond =>
      rw [told, Story.run_followedBy, ihFirst, ihSecond, tried]
  | either first second ihFirst ihSecond =>
      rw [told, Story.run_followedBy, ihFirst, ihSecond, tried]

end Goal

namespace Graph

/-- The story of a question while others are being answered. -/
def story (graph : Graph) (opened : List Question) (question : Question) : Story :=
  match _ : graph.step question with
  | .settled outcome => ⟨outcome, []⟩
  | .reduced goal =>
      if _ : question ∈ opened then ⟨.ok true, [⟨question, opened⟩]⟩
      else (goal.told (graph.story (question :: opened))).after ⟨question, opened⟩
termination_by (graph.questions.filter (· ∉ opened)).length
decreasing_by exact fewer_left (mem_questions_of_reduced ‹_›) ‹_›

variable {graph : Graph} {opened : List Question} {question : Question}

theorem story_of_settled {outcome : Except Indeterminate Bool}
    (settled : graph.step question = .settled outcome) :
    graph.story opened question = ⟨outcome, []⟩ := by
  rw [story]
  split
  · next found eq => rw [settled, Step.settled.injEq] at eq; rw [eq]
  · next goal eq => rw [settled] at eq; cases eq

theorem story_of_open {goal : Goal} (reduced : graph.step question = .reduced goal)
    (known : question ∈ opened) :
    graph.story opened question = ⟨.ok true, [⟨question, opened⟩]⟩ := by
  rw [story]
  split
  · next outcome eq => rw [reduced] at eq; cases eq
  · rw [dif_pos known]

theorem story_of_fresh {goal : Goal} (reduced : graph.step question = .reduced goal)
    (fresh : question ∉ opened) :
    graph.story opened question =
      (goal.told (graph.story (question :: opened))).after ⟨question, opened⟩ := by
  rw [story]
  split
  · next outcome eq => rw [reduced] at eq; cases eq
  · next found eq =>
      rw [reduced, Step.reduced.injEq] at eq
      rw [dif_neg fresh, eq]

/-- The story of a question is its run with the questions filled in. -/
theorem run_story (graph : Graph) (opened : List Question) (question : Question) :
    (graph.story opened question).run = graph.run opened question := by
  induction opened, question using graph.run_induction with
  | settled opened question outcome settled =>
      rw [story_of_settled settled, run_of_settled settled]
      rfl
  | known opened question goal reduced known =>
      rw [story_of_open reduced known, run_of_open reduced known]
      rfl
  | fresh opened question goal reduced fresh ih =>
      rw [story_of_fresh reduced fresh, run_of_fresh reduced fresh, Story.run_after,
        Goal.run_told]
      simp only [ih]
      rfl

end Graph

namespace Limits

/-- What comes up, after `made` questions, before the first question that exceeds a limit. -/
def allowed (limits : Limits) : Nat → List Encounter → List Encounter
  | _, [] => []
  | made, encounter :: rest =>
      match limits.exceededAt? made encounter.depth with
      | some _ => []
      | none => encounter :: limits.allowed (made + 1) rest

/-- The questions that come up, as far as the limits allow, while they are being answered. -/
def recurring (limits : Limits) (made : Nat) (encounters : List Encounter) : List Question :=
  ((limits.allowed made encounters).filter Encounter.recurs).map Encounter.question

variable {limits : Limits} {made : Nat} {encounter : Encounter} {encounters : List Encounter}

theorem recurring_of_exceededAt {cause : Indeterminate}
    (cut : limits.exceededAt? made encounter.depth = some cause) :
    limits.recurring made (encounter :: encounters) = [] := by
  rw [recurring, allowed, cut]
  rfl

theorem recurring_cons (kept : limits.exceededAt? made encounter.depth = none) :
    limits.recurring made (encounter :: encounters) =
      (if encounter.recurs then [encounter.question] else []) ++
        limits.recurring (made + 1) encounters := by
  rw [recurring, allowed, kept, recurring]
  cases recurs : encounter.recurs <;> simp [recurs]

/-- What comes up later counts only if no limit is exceeded earlier. -/
theorem recurring_append (made : Nat) (earlier later : List Encounter) :
    limits.recurring made (earlier ++ later) =
      limits.recurring made earlier ++
        match limits.exceeded? made (earlier.map Encounter.depth) with
        | some _ => []
        | none => limits.recurring (made + earlier.length) later := by
  induction earlier generalizing made with
  | nil => rfl
  | cons encounter earlier ih =>
      rw [List.cons_append, List.map_cons, exceeded?]
      cases cut : limits.exceededAt? made encounter.depth with
      | some cause => rw [recurring_of_exceededAt cut, recurring_of_exceededAt cut]; rfl
      | none =>
          have count_eq : made + (earlier.length + 1) = made + 1 + earlier.length := by omega
          rw [recurring_cons cut, recurring_cons cut, ih, Option.none_or, List.append_assoc,
            List.length_cons, count_eq]

/-- A story that goes on counts on only if the first part is answered within the limits. -/
theorem recurring_followedBy (made : Nat) (first second : Story) (turning : Bool) :
    limits.recurring made (first.followedBy turning second).encounters =
      limits.recurring made first.encounters ++
        if limits.outcome made first.run = .ok turning then
          limits.recurring (made + first.run.entries) second.encounters
        else [] := by
  have entries_eq : first.run.entries = first.encounters.length := List.length_map ..
  have depths_eq : first.run.depths = first.encounters.map Encounter.depth := rfl
  have outcome_eq : first.run.outcome = first.outcome := rfl
  rw [outcome, entries_eq, depths_eq, outcome_eq, Story.followedBy]
  cases first.outcome with
  | error cause => cases limits.exceeded? made (first.encounters.map _) <;> simp
  | ok answer =>
      by_cases same : answer = turning
      · simp only [if_pos same, recurring_append]
        cases limits.exceeded? made (first.encounters.map _) <;> simp [same]
      · cases limits.exceeded? made (first.encounters.map _) <;> simp [same]

/-- Whether a search goes as a story does, as far as the limits allow, and records on top of what
was recorded before which questions come up again. -/
structure Records (limits : Limits) (story : Story) (guard : Guard)
    (result : Except Indeterminate Bool × Guard) : Prop where
  follows : limits.Follows story.run guard result
  cycles : result.2.cycles =
    (limits.recurring guard.entries story.encounters).reverse ++ guard.cycles

namespace Records

open Follows

variable {guard : Guard} {first second : Story} {result : Except Indeterminate Bool × Guard}

/-- A search that ends before anything comes up. -/
theorem of_settled {outcome : Except Indeterminate Bool} :
    limits.Records ⟨outcome, []⟩ guard (outcome, guard) where
  follows := ⟨rfl, rfl, fun _ => rfl, fun _ => by simp [Story.run, Run.reach]⟩
  cycles := rfl

theorem continued_eq (turning : Bool) (next : Guard → Except Indeterminate Bool × Guard)
    (result : Except Indeterminate Bool × Guard) :
    continued turning next result = if result.1 = .ok turning then next result.2 else result := by
  rw [continued]
  cases result.1 with
  | error cause => simp
  | ok answer => simp

theorem followedBy {turning : Bool} {next : Guard → Except Indeterminate Bool × Guard}
    (records : limits.Records first guard result)
    (next_records : ∀ after : Guard, after.active = guard.active →
      limits.Records second after (next after)) :
    limits.Records (first.followedBy turning second) guard (continued turning next result) where
  follows := by
    rw [Story.run_followedBy]
    exact records.follows.followedBy fun after same => (next_records after same).follows
  cycles := by
    have outcome_eq := records.follows.outcome
    rw [recurring_followedBy, continued_eq, outcome_eq]
    by_cases turns : limits.outcome guard.entries first.run = .ok turning
    · have within : limits.exceeded? guard.entries first.run.depths = none := by
        cases exceeded : limits.exceeded? guard.entries first.run.depths with
        | some cause => simp [outcome, exceeded] at turns
        | none => rfl
      have rest := (next_records result.2 records.follows.active).cycles
      rw [records.follows.entries within, records.cycles] at rest
      rw [if_pos turns, if_pos turns, rest, List.reverse_append, List.append_assoc]
    · rw [if_neg turns, if_neg turns, List.append_nil, records.cycles]

end Records
end Limits

namespace Goal

open Limits.Follows

/-- Solving a goal records what its story tells, if answering questions does. -/
theorem solve_records {limits : Limits} {opened : List Question} {ask : Question → Search Bool}
    {story : Question → Story}
    (ask_records : ∀ question guard, Guard.Tracks guard opened →
      limits.Records (story question) guard (ask question guard))
    (goal : Goal) {guard : Guard} (tracks : guard.Tracks opened) :
    limits.Records (goal.told story) guard (goal.solve ask guard) := by
  induction goal generalizing guard with
  | decided _ | stuck _ => exact .of_settled
  | compare question => exact ask_records question guard tracks
  | both first second ihFirst ihSecond =>
      rw [solve_both]
      exact (ihFirst tracks).followedBy fun after same => ihSecond (tracks.of_active_eq same)
  | either first second ihFirst ihSecond =>
      rw [solve_either]
      exact (ihFirst tracks).followedBy fun after same => ihSecond () (tracks.of_active_eq same)

/-- A search through candidates leaves the guard as trying their goals in turn does. -/
theorem guard_firstHolding (ask : Question → Search Bool) (candidates : LazyList (TypeId × Goal))
    (guard : Guard) :
    (firstHolding ask candidates guard).2 =
      ((any (candidates.map Prod.snd)).solve ask guard).2 := by
  induction candidates generalizing guard with
  | nil => rfl
  | cons entry rest ih =>
      obtain ⟨candidate, goal⟩ := entry
      rw [firstHolding, LazyList.map, any, solve]
      rcases goal.solve ask guard with ⟨⟨cause⟩ | ⟨⟨⟩ | ⟨⟩⟩, after⟩
      · rfl
      · exact ih () after
      · rfl

end Goal

namespace Graph

theorem check_follows_story (graph : Graph) (limits : Limits) (room : Nat) (question : Question)
    {guard : Guard} {opened : List Question} (tracks : guard.Tracks opened)
    (room_eq : room = limits.maxDepth.toNat - guard.depth) :
    limits.Follows (graph.story opened question).run guard
      (graph.check limits room question guard) := by
  rw [run_story]
  exact graph.check_follows limits room question tracks room_eq

/-- A search under limits records the questions that come up again in the story without limits. -/
theorem check_records (graph : Graph) (limits : Limits) (room : Nat) (question : Question)
    {guard : Guard} {opened : List Question} (tracks : guard.Tracks opened)
    (room_eq : room = limits.maxDepth.toNat - guard.depth) :
    limits.Records (graph.story opened question) guard
      (graph.check limits room question guard) := by
  induction opened, question using graph.run_induction generalizing guard room with
  | settled opened question outcome settled =>
      rw [story_of_settled settled, check_of_settled settled]
      exact .of_settled
  | known opened question goal reduced known =>
      have active : question ∈ guard.active := (tracks.mem_iff question).mpr known
      have depth_eq : guard.depth = Encounter.depth ⟨question, opened⟩ := tracks.depth_eq
      have recurs : Encounter.recurs ⟨question, opened⟩ = true := decide_eq_true known
      refine ⟨graph.check_follows_story limits room question tracks room_eq, ?_⟩
      rw [story_of_open reduced known, check_of_reduced reduced room_eq, depth_eq]
      cases exceeded : limits.exceededAt? guard.entries (Encounter.depth ⟨question, opened⟩) with
      | some cause => rw [Limits.recurring_of_exceededAt exceeded]; rfl
      | none =>
          simp only [if_pos active, Limits.recurring_cons exceeded, if_pos recurs]
          rfl
  | fresh opened question goal reduced fresh ih =>
      have unopened : question ∉ guard.active := mt (tracks.mem_iff question).mp fresh
      have depth_eq : guard.depth = Encounter.depth ⟨question, opened⟩ := tracks.depth_eq
      have first : ¬ Encounter.recurs ⟨question, opened⟩ = true := by simpa [Encounter.recurs]
      refine ⟨graph.check_follows_story limits room question tracks room_eq, ?_⟩
      rw [story_of_fresh reduced fresh, check_of_reduced reduced room_eq, Story.after, depth_eq]
      cases exceeded : limits.exceededAt? guard.entries (Encounter.depth ⟨question, opened⟩) with
      | some cause => rw [Limits.recurring_of_exceededAt exceeded]; rfl
      | none =>
          have asked : guard.ask.Tracks opened := tracks.of_active_eq rfl
          have entered : (guard.ask.enter question).Tracks (question :: opened) := asked.enter fresh
          have solved := Goal.solve_records
            (fun other state known => ih other (room - 1) known (by
              have state_depth := known.depth_eq
              have guard_depth := tracks.depth_eq
              rw [List.length_cons] at state_depth
              omega)) goal entered
          simp only [if_neg unopened, Limits.recurring_cons exceeded, if_neg first]
          exact solved.cycles

theorem ask_records (graph : Graph) (limits : Limits) (question : Question) {guard : Guard}
    {opened : List Question} (tracks : guard.Tracks opened) :
    limits.Records (graph.story opened question) guard (graph.ask limits question guard) :=
  graph.check_records limits _ question tracks rfl

end Graph

namespace Probe

/-- The goal that a search tries; through candidates it is that the goal of one of them holds. -/
def goal (env : Environment) : Probe → Goal
  | compare question => .compare question
  | fitsName name source => env.toGraph.fitsName name source
  | ofClass name type => env.toGraph.ofClass name type
  | declaredMethod type name arguments =>
      .any ((env.toGraph.candidates name arguments type).map Prod.snd)
  | overriddenMethod method =>
      env.toGraph.withNode method fun node =>
        match node with
        | .methodDecl decl =>
            .any ((LazyList.join (env.toGraph.candidates decl.name decl.parameterTypes)
              (env.supertypes decl.declaringType)).map Prod.snd)
        | _ => .decided false

theorem guard_overriddenMethod (env : Environment) (limits : Limits) (method : TypeId)
    (guard : Guard) :
    (env.overriddenMethod limits method guard).2 =
      ((overriddenMethod method).goal env |>.solve (env.toGraph.ask limits) guard).2 := by
  rw [Environment.overriddenMethod, goal, Graph.withNode]
  cases env.node method with
  | none => rfl
  | some node =>
      cases node with
      | methodDecl decl =>
          simp only [← Goal.guard_firstHolding]
          split
          · next candidate after searched => rw [searched]
          · next cause after searched => rw [searched]
      | _ => rfl

/-- A search leaves the guard as trying its goal does. -/
theorem guard_search (env : Environment) (limits : Limits) (probe : Probe) (guard : Guard) :
    (probe.search env limits guard).2 =
      ((probe.goal env).solve (env.toGraph.ask limits) guard).2 := by
  cases probe with
  | compare _ | fitsName _ _ | ofClass _ _ => rfl
  | declaredMethod type name arguments => exact Goal.guard_firstHolding _ _ guard
  | overriddenMethod method => exact guard_overriddenMethod env limits method guard

/-- The story of a search. -/
def story (env : Environment) (probe : Probe) : Story :=
  (probe.goal env).told (env.toGraph.story [])

/-- The questions that come up, as far as the limits allow, while they are being answered in a
search. -/
def recurring (env : Environment) (limits : Limits) (probe : Probe) : List Question :=
  limits.recurring 0 (probe.story env).encounters

/-- What a search records is what comes up again in the story of its goal. -/
theorem cycles_search (env : Environment) (limits : Limits) (probe : Probe) :
    (probe.search env limits {}).2.cycles = (probe.recurring env limits).reverse := by
  have records := Goal.solve_records
    (fun question _ => env.toGraph.ask_records limits question) (probe.goal env) Guard.tracks_nil
  rw [guard_search, records.cycles]
  exact List.append_nil _

example : (compare ⟨.ofType, ⟨14⟩, ⟨15⟩, .bound⟩).recurring boxesOfMissing {} =
    [⟨.ofType, ⟨14⟩, ⟨15⟩, .bound⟩] := by
  rw [← List.reverse_inj, ← cycles_search]
  decide +kernel

end Probe
end JavaTypes
