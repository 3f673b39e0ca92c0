import JavaTypes.Proofs.Candidates
import JavaTypes.Store.Operation

/-!
# The guard is balanced

Whatever becomes of a search, it closes the questions that it opened, each while it is open, and
leaves the count of open questions as it found it.  So an earlier search tells on a later one only
through the number of questions that it used up.
-/

namespace JavaTypes
namespace Guard

variable {limits : Limits} {guard after later : Guard} {question : Question}

/-- Whether the count of open questions is right, and within the limit on them. -/
structure Balanced (guard : Guard) (limits : Limits) : Prop where
  counted_eq : guard.counted.toNat = guard.active.size
  within : guard.counted ≤ limits.maxDepth

/-- What a search keeps on its way from one state to another: the open questions and their count,
which meanwhile was not beyond the limit, and that no question is closed that is not open. -/
structure KeptTo (limits : Limits) (guard after : Guard) : Prop where
  active : after.active = guard.active
  counted : after.counted = guard.counted
  entries : guard.entries ≤ after.entries
  deepest : after.deepest ≤ max guard.deepest limits.maxDepth.toNat
  strayLeaves : after.strayLeaves = guard.strayLeaves

namespace KeptTo

theorem refl (limits : Limits) (guard : Guard) : KeptTo limits guard guard :=
  ⟨rfl, rfl, le_rfl, le_max_left _ _, rfl⟩

theorem trans (first : KeptTo limits guard after) (second : KeptTo limits after later) :
    KeptTo limits guard later where
  active := second.active.trans first.active
  counted := second.counted.trans first.counted
  entries := first.entries.trans second.entries
  deepest := by
    have := first.deepest
    have := second.deepest
    omega
  strayLeaves := second.strayLeaves.trans first.strayLeaves

theorem depth_eq (kept : KeptTo limits guard after) : after.depth = guard.depth := by
  rw [depth, kept.active, depth]

theorem balanced (kept : KeptTo limits guard after) (balanced : guard.Balanced limits) :
    after.Balanced limits where
  counted_eq := by rw [kept.counted, kept.active, balanced.counted_eq]
  within := by rw [kept.counted]; exact balanced.within

theorem ask (limits : Limits) (guard : Guard) : KeptTo limits guard guard.ask :=
  ⟨rfl, rfl, Nat.le_succ _, le_max_left _ _, rfl⟩

theorem assume (limits : Limits) (guard : Guard) (question : Question) :
    KeptTo limits guard (guard.assume question) :=
  ⟨rfl, rfl, le_rfl, le_max_left _ _, rfl⟩

end KeptTo

namespace Balanced

theorem depth_eq (balanced : guard.Balanced limits) : guard.depth = guard.counted.toNat :=
  balanced.counted_eq.symm

/-- Counting up does not overflow below the limit. -/
theorem counted_succ (balanced : guard.Balanced limits)
    (shallow : guard.depth < limits.maxDepth.toNat) :
    (guard.counted + 1).toNat = guard.depth + 1 := by
  have bounded := limits.maxDepth.toNat_lt
  have counted_eq := balanced.depth_eq
  rw [UInt32.toNat_add, UInt32.toNat_one]
  omega

theorem enter (balanced : guard.Balanced limits) (fresh : question ∉ guard.active)
    (shallow : guard.depth < limits.maxDepth.toNat) :
    (guard.enter question).Balanced limits where
  counted_eq := by
    have unopened : guard.active.contains question = false :=
      Bool.eq_false_iff.mpr fun known => fresh (Std.ExtTreeSet.contains_iff_mem.mp known)
    rw [Guard.enter, balanced.counted_succ shallow, Std.ExtTreeSet.size_insert, unopened, depth]
    rfl
  within := by
    rw [UInt32.le_iff_toNat_le, Guard.enter, balanced.counted_succ shallow]
    exact shallow

/-- What is opened, kept and closed again is as it was before. -/
theorem leave (balanced : guard.Balanced limits) (fresh : question ∉ guard.active)
    (shallow : guard.depth < limits.maxDepth.toNat)
    (kept : KeptTo limits (guard.enter question) after) :
    KeptTo limits guard (after.leave question) where
  active := by
    have entered_active := kept.active
    rw [Guard.leave, entered_active]
    exact guard.leave_enter_active question fresh
  counted := by
    have entered_counted : after.counted = guard.counted + 1 := kept.counted
    have some_open : guard.counted + 1 ≠ 0 := by
      intro none_open
      have overflow := balanced.counted_succ shallow
      rw [none_open, UInt32.toNat_zero] at overflow
      omega
    rw [Guard.leave, entered_counted, if_neg some_open, UInt32.add_sub_cancel]
  entries := kept.entries
  deepest := by
    have entered_deepest : after.deepest ≤
        max (max guard.deepest (guard.counted + 1).toNat) limits.maxDepth.toNat := kept.deepest
    rw [balanced.counted_succ shallow] at entered_deepest
    change after.deepest ≤ _
    omega
  strayLeaves := by
    have open_still : question ∈ after.active := by
      rw [kept.active, Guard.enter]
      exact Std.ExtTreeSet.mem_insert_self
    have entered_stray : after.strayLeaves = guard.strayLeaves := kept.strayLeaves
    rw [Guard.leave, if_pos open_still, entered_stray]

end Balanced
end Guard

namespace Graph

variable {graph : Graph} {limits : Limits} {guard : Guard} {question : Question} {room : Nat}

/-- Answering a question keeps the guard as it was.  The induction is on the room for further
questions, of which every open one uses up a part. -/
theorem check_keeps (balanced : guard.Balanced limits)
    (room_eq : room = limits.maxDepth.toNat - guard.depth) :
    Guard.KeptTo limits guard (graph.check limits room question guard).2 := by
  induction room using Nat.strong_induction_on generalizing question guard with
  | _ room ih =>
      cases step : graph.step question with
      | settled outcome =>
          rw [check_of_settled step]
          exact .refl limits guard
      | reduced goal =>
          rw [check_of_reduced step room_eq]
          cases exceeded : limits.exceededAt? guard.entries guard.depth with
          | some cause => exact .ask limits guard
          | none =>
              have shallow := (Limits.exceededAt?_eq_none_iff.mp exceeded).2
              have asked : Guard.KeptTo limits guard guard.ask := .ask limits guard
              have asked_balanced := asked.balanced balanced
              by_cases known : question ∈ guard.active
              · simp only [if_pos known]
                exact asked.trans (.assume limits guard.ask question)
              · have entered := asked_balanced.enter known shallow
                have keeps (other : Question) (state : Guard)
                    (kept : Guard.KeptTo limits (guard.ask.enter question) state) :
                    Guard.KeptTo limits (guard.ask.enter question)
                      (graph.check limits (room - 1) other state).2 := by
                  have deeper : state.depth = guard.depth + 1 := by
                    rw [kept.depth_eq, entered.depth_eq]
                    exact asked_balanced.counted_succ shallow
                  exact kept.trans (ih (room - 1) (by omega) (kept.balanced entered) (by omega))
                have solved := Goal.solve_keeps keeps goal (.refl limits (guard.ask.enter question))
                simp only [if_neg known]
                exact asked.trans (asked_balanced.leave known shallow solved)

theorem ask_keeps (balanced : guard.Balanced limits) :
    Guard.KeptTo limits guard (graph.ask limits question guard).2 :=
  check_keeps balanced rfl

/-- Wherever a search has got to, one more question keeps what it started from. -/
theorem keeps_from (balanced : guard.Balanced limits) (question : Question) (state : Guard)
    (kept : Guard.KeptTo limits guard state) :
    Guard.KeptTo limits guard (graph.ask limits question state).2 :=
  kept.trans (ask_keeps (kept.balanced balanced))

end Graph

namespace Search

variable {α β : Type} {limits : Limits}

/-- A search whose result is put as something else. -/
def mapped (f : α → β) (search : Search α) : Search β :=
  fun guard => ((search guard).1.map f, (search guard).2)

/-- Whether a search keeps a balanced guard as it was, and whether, among guards with the same open
questions, it comes to the same save for the number of questions that were asked before: after more
of them it may exceed their limit. -/
structure Steady (limits : Limits) (search : Search α) : Prop where
  keeps : ∀ guard : Guard, guard.Balanced limits → Guard.KeptTo limits guard (search guard).2
  counts : ∀ guard other : Guard, other.active = guard.active → guard.entries ≤ other.entries →
    (search other).1 = (search guard).1 ∨
      (search other).1 = .error (.iterationsExceeded limits.maxIterations)

theorem steady_pure (outcome : Except Indeterminate α) :
    Steady limits fun guard => (outcome, guard) where
  keeps guard _ := .refl limits guard
  counts _ _ _ _ := Or.inl rfl

theorem Steady.mapped {search : Search α} (steady : search.Steady limits) (f : α → β) :
    (search.mapped f).Steady limits where
  keeps := steady.keeps
  counts guard other same le := by
    rcases steady.counts guard other same le with eq | cut
    · exact Or.inl (congrArg (Except.map f) eq)
    · exact Or.inr (congrArg (Except.map f) cut)

/-- After as many questions a search comes to the same. -/
theorem Steady.outcome_eq {search : Search α} (steady : search.Steady limits)
    {guard other : Guard} (active_eq : other.active = guard.active)
    (entries_eq : other.entries = guard.entries) : (search other).1 = (search guard).1 := by
  rcases steady.counts guard other active_eq entries_eq.ge with eq | cut
  · exact eq
  · rcases steady.counts other guard active_eq.symm entries_eq.le with eq | cut_too
    · exact eq.symm
    · rw [cut, cut_too]

theorem steady_solve (graph : Graph) (limits : Limits) (goal : Goal) :
    Steady limits (goal.solve (graph.ask limits)) where
  keeps guard balanced := Goal.solve_keeps (Graph.keeps_from balanced) goal (.refl limits guard)
  counts guard other same le := by
    have tracks := guard.tracks_toList
    have follows {state : Guard} (tracks : state.Tracks guard.active.toList) :=
      Goal.solve_follows (fun question _ => graph.ask_follows_of_tracks limits question) goal tracks
    rw [(follows tracks).outcome, (follows (tracks.of_active_eq same)).outcome]
    exact Limits.outcome_of_more le _

theorem steady_firstHolding (graph : Graph) (limits : Limits)
    (candidates : LazyList (TypeId × Goal)) :
    Steady limits (Goal.firstHolding (graph.ask limits) candidates) where
  keeps guard balanced :=
    Goal.firstHolding_keeps (Graph.keeps_from balanced) candidates (.refl limits guard)
  counts guard other same le := by
    have tracks := guard.tracks_toList
    rw [Graph.firstHolding_eq_firstFound tracks,
      Graph.firstHolding_eq_firstFound (tracks.of_active_eq same)]
    exact Goal.firstFound_of_more le _

/-- The search for an overridden method ends at once or goes through candidates, of which one may be
accepted. -/
theorem overriddenMethod_eq (env : Environment) (limits : Limits) (method : TypeId) :
    (∃ outcome, env.overriddenMethod limits method = fun guard => (outcome, guard)) ∨
      ∃ accept candidates, env.overriddenMethod limits method =
        mapped accept (Goal.firstHolding (env.toGraph.ask limits) candidates) := by
  cases present : env.node method with
  | none =>
      refine Or.inl ⟨.error (.danglingType method), funext fun guard => ?_⟩
      rw [Environment.overriddenMethod, present]
  | some node =>
      by_cases isMethod : ∃ decl, node = .methodDecl decl
      · obtain ⟨decl, rfl⟩ := isMethod
        refine Or.inr ⟨env.accept decl.declaringType,
          LazyList.join (env.toGraph.candidates decl.name decl.parameterTypes)
            (env.supertypes decl.declaringType), funext fun guard => ?_⟩
        rw [Environment.overriddenMethod, present, mapped]
        dsimp only
        split
        · next candidate after searched => rw [searched]; rfl
        · next cause after searched => rw [searched]; rfl
      · refine Or.inl ⟨.ok none, funext fun guard => ?_⟩
        rw [Environment.overriddenMethod, present]
        cases node with
        | methodDecl decl => exact absurd ⟨decl, rfl⟩ isMethod
        | _ => rfl

theorem steady_overriddenMethod (env : Environment) (limits : Limits) (method : TypeId) :
    Steady limits (env.overriddenMethod limits method) := by
  rcases overriddenMethod_eq env limits method with ⟨outcome, eq⟩ | ⟨accept, candidates, eq⟩
  · exact eq ▸ steady_pure outcome
  · exact eq ▸ (steady_firstHolding env.toGraph limits candidates).mapped accept

end Search

/-- A search that a query may consist of. -/
inductive Probe where
  | compare (question : Question)
  /-- Whether a type fits a name. -/
  | fitsName (name : String) (source : TypeId)
  /-- Whether a type comes down to a named class. -/
  | ofClass (name : String) (type : TypeId)
  | declaredMethod (type : TypeId) (name : String) (arguments : List TypeId)
  | overriddenMethod (method : TypeId)

namespace Probe

/-- Makes the search in an environment under limits. -/
def search (env : Environment) (limits : Limits) : Probe → Search Answer
  | compare question => Search.mapped .truth (env.toGraph.ask limits question)
  | fitsName name source =>
      Search.mapped .truth (env.toGraph.prove limits (env.toGraph.fitsName name source))
  | ofClass name type =>
      Search.mapped .truth (env.toGraph.prove limits (env.toGraph.ofClass name type))
  | declaredMethod type name arguments =>
      Search.mapped .method (env.toGraph.declaredMethod limits type name arguments)
  | overriddenMethod method => Search.mapped .method (env.overriddenMethod limits method)

theorem steady_search (env : Environment) (limits : Limits) (probe : Probe) :
    Search.Steady limits (probe.search env limits) := by
  cases probe with
  | compare question => exact (Search.steady_solve env.toGraph limits (.compare question)).mapped _
  | fitsName _ _ | ofClass _ _ => exact (Search.steady_solve env.toGraph limits _).mapped _
  | declaredMethod type name arguments =>
      exact (Search.steady_firstHolding env.toGraph limits _).mapped _
  | overriddenMethod method => exact (Search.steady_overriddenMethod env limits method).mapped _

/-- Whether two types compare, whether one fits a name and which method is declared or overridden:
however the search for it ends, the questions open at the end are those that were open before and
are counted as before.  At no time were more open than the limit permits, and no question was closed
that was not open.  What a later search comes to depends on the earlier one through the number of
questions alone: it is what it would have been without the earlier search, or there are too many
questions. -/
theorem guard_balanced (env : Environment) (limits : Limits) {guard : Guard}
    (balanced : guard.Balanced limits) (probe : Probe) :
    let after := (probe.search env limits guard).2
    after.active = guard.active ∧ after.counted = guard.counted ∧
      guard.entries ≤ after.entries ∧
      after.deepest ≤ max guard.deepest limits.maxDepth.toNat ∧
      after.strayLeaves = guard.strayLeaves ∧
      ∀ later : Probe,
        (later.search env limits after).1 =
          (later.search env limits { guard with entries := after.entries }).1 ∧
        ((later.search env limits after).1 = (later.search env limits guard).1 ∨
          (later.search env limits after).1 =
            .error (.iterationsExceeded limits.maxIterations)) := by
  intro after
  have kept : Guard.KeptTo limits guard after := (probe.steady_search env limits).keeps _ balanced
  refine ⟨kept.active, kept.counted, kept.entries, kept.deepest, kept.strayLeaves, fun later => ?_⟩
  have steady := later.steady_search env limits
  exact ⟨steady.outcome_eq kept.active rfl, steady.counts guard after kept.active kept.entries⟩

/-- An environment with two boxes of themselves and of a type that is only reserved. -/
def boxesOfMissing : Environment :=
  (Store.empty.run
    [.add (.classDecl { name := "p.Box" }), .reserve, .reserve, .reserve,
      .define ⟨14⟩ (.parameterized ⟨13⟩ [⟨14⟩, ⟨16⟩]),
      .define ⟨15⟩ (.parameterized ⟨13⟩ [⟨15⟩, ⟨16⟩])]).environment

theorem guard_balanced_of_boxesOfMissing :
    let limits : Limits := { maxDepth := 3, maxIterations := 3 }
    let outer : Question := ⟨.assignableTo, ⟨14⟩, ⟨15⟩, .bound⟩
    let guard : Guard := ({} : Guard).ask.enter outer
    let probe : Probe := .compare ⟨.ofType, ⟨14⟩, ⟨15⟩, .bound⟩
    let result := probe.search boxesOfMissing limits guard
    guard.Balanced limits ∧ guard.counted = 1 ∧ result.1 = .error (.danglingType ⟨16⟩) ∧
      result.2.active = guard.active ∧ result.2.counted = 1 ∧ result.2.entries = 3 ∧
      result.2.cycles = [⟨.ofType, ⟨14⟩, ⟨15⟩, .bound⟩] ∧ result.2.deepest ≤ 3 ∧
      result.2.strayLeaves = 0 ∧
      (probe.search boxesOfMissing limits result.2).1 = .error (.iterationsExceeded 3) := by
  intro limits outer guard probe result
  have balanced : guard.Balanced limits := ⟨by decide +kernel, by decide +kernel⟩
  obtain ⟨active_eq, counted_eq, -, deepest_le, stray_eq, later⟩ :=
    guard_balanced boxesOfMissing limits balanced probe
  have failed : result.1 = .error (.danglingType ⟨16⟩) := by decide +kernel
  have again : (probe.search boxesOfMissing limits result.2).1 ≠ result.1 := by decide +kernel
  exact ⟨balanced, rfl, failed, active_eq, counted_eq, by decide +kernel, by decide +kernel,
    deepest_le, stray_eq, (later probe).2.resolve_left again⟩

end Probe
end JavaTypes
