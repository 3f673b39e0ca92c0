import JavaTypes.Proofs.Recurrence

/-!
# What a handle records

Queries to one handle do not tell on each other: each starts with a guard of its own.  The counters
of a handle are therefore sums over its queries, and what a query records is told by the story of
its search.
-/

namespace JavaTypes

namespace Query

/-- Whether a query asks to be told why there is no answer. -/
def tellsWhy : Query → Bool
  | tryOfType _ _ _ | tryAssignable _ _ _ => true
  | _ => false

/-- The search that a query consists of; the others ask a test along a walk or nothing at all. -/
def probe? : Query → Option Probe
  | ofType target source mode | tryOfType target source mode =>
      some (.compare ⟨.ofType, target, source, mode⟩)
  | assignable target source mode | tryAssignable target source mode =>
      some (.compare ⟨.assignableTo, target, source, mode⟩)
  | assignableToName name source => some (.fitsName name source)
  | ofClassType type name => some (.ofClass name type)
  | overriddenMethod method | isOverride method => some (.overriddenMethod method)
  | declaredMethod (some type) name arguments => some (.declaredMethod type name arguments)
  | declaredMethod none _ _ | assignableToPattern _ _ | assignableToPredicate _ _
  | ofTypeWithName _ _ _ => none

/-- Whether a query is refused: it ends without an answer and is not told why. -/
def isRefused (env : Environment) (limits : Limits) (query : Query) : Bool :=
  !query.tellsWhy && !(query.evaluate env limits).outcome.isOk

/-- The questions that come up, as far as the limits allow, while they are being answered for a
query. -/
def recurring (env : Environment) (limits : Limits) (query : Query) : List Question :=
  (query.probe?.map fun probe => probe.recurring env limits).getD []

/-- What is recorded of a query that is refused. -/
def refusedEvents (env : Environment) (limits : Limits) (query : Query) : List Event :=
  match (query.evaluate env limits).outcome, query.recordedAs? with
  | .error cause, some name => [.refused name cause]
  | _, _ => []

theorem recordedAs?_isSome (query : Query) : query.recordedAs?.isSome = !query.tellsWhy := by
  cases query <;> rfl

/-- The guard of a query has the record of the search that the query consists of. -/
theorem cycles_evaluate (env : Environment) (limits : Limits) (query : Query) :
    (query.evaluate env limits).guard.cycles = (query.recurring env limits).reverse := by
  have cycles_eq : (query.evaluate env limits).guard.cycles =
      (query.probe?.map fun probe => (probe.search env limits {}).2.cycles).getD [] := by
    cases query with
    | ofTypeWithName type supertypesCount accepts => cases type <;> rfl
    | declaredMethod type name arguments => cases type <;> rfl
    | _ => rfl
  rw [cycles_eq, recurring]
  cases query.probe? with
  | none => rfl
  | some probe => exact probe.cycles_search env limits

end Query

namespace Handle

/-- What a handle replies does not depend on its counters. -/
theorem reply_eq {handle other : Handle} (same_env : handle.env = other.env)
    (same_limits : handle.limits = other.limits) (query : Query) :
    (handle.ask query).1 = (other.ask query).1 := by
  rw [ask, ask, same_env, same_limits]
  cases (query.evaluate other.env other.limits).outcome with
  | ok answer => rfl
  | error cause => cases query.recordedAs? <;> rfl

/-- A query that is refused is answered in the negative and counted.  Every query records and counts
what comes up again on the way. -/
theorem ask_counts (handle : Handle) (query : Query) :
    (handle.ask query).2 =
      { handle with
        indeterminate := handle.indeterminate +
          (if query.isRefused handle.env handle.limits then 1 else 0)
        cycles := handle.cycles + (query.recurring handle.env handle.limits).length } ∧
      (handle.ask query).1.answer =
        (if query.isRefused handle.env handle.limits then .ok query.refusal
          else (query.evaluate handle.env handle.limits).outcome) ∧
      (handle.ask query).1.events =
        (query.recurring handle.env handle.limits).map .assumed ++
          query.refusedEvents handle.env handle.limits := by
  have recorded := query.recordedAs?_isSome
  have cycles_eq := query.cycles_evaluate handle.env handle.limits
  rw [ask, Query.isRefused, Query.refusedEvents, cycles_eq]
  cases (query.evaluate handle.env handle.limits).outcome with
  | ok answer => simp [Except.isOk, Except.toBool]
  | error cause =>
      cases named : query.recordedAs? with
      | none =>
          have told : query.tellsWhy = true := by simpa [named] using recorded
          simp [told]
      | some name =>
          have untold : query.tellsWhy = false := by simpa [named] using recorded
          simp [untold, Except.isOk, Except.toBool]

theorem askAll_cons (handle : Handle) (query : Query) (queries : List Query) :
    handle.askAll (query :: queries) =
      ((handle.ask query).1 :: ((handle.ask query).2.askAll queries).1,
        ((handle.ask query).2.askAll queries).2) := rfl

/-- What a handle replies to several queries and what its counters are after them. -/
theorem askAll_counts (handle : Handle) (queries : List Query) :
    handle.askAll queries =
      (queries.map fun query => (handle.ask query).1,
        { handle with
          indeterminate := handle.indeterminate +
            queries.countP (Query.isRefused handle.env handle.limits)
          cycles := handle.cycles +
            (queries.map fun query =>
              (query.recurring handle.env handle.limits).length).sum }) := by
  induction queries generalizing handle with
  | nil => rfl
  | cons query queries ih =>
      have counted := (handle.ask_counts query).1
      have replies_eq (later : Query) :
          ((handle.ask query).2.ask later).1 = (handle.ask later).1 :=
        reply_eq (by rw [counted]) (by rw [counted]) later
      rw [askAll_cons, ih, List.map_cons, List.countP_cons, List.map_cons, List.sum_cons]
      simp only [replies_eq]
      rw [counted]
      congr 2
      · rw [Nat.add_assoc, Nat.add_comm (ite _ _ _)]
      · rw [Nat.add_assoc]

theorem refusal_eq (query : Query) :
    query.refusal = .truth false ∨ query.refusal = .method none := by
  cases query <;> simp [Query.refusal]

/-- Each query to a handle is replied to as by a handle that was asked nothing before: with the same
answer, the same questions to tests and the same record.  After some queries the handle has counted,
of those that do not ask to be told why, the ones that ended without an answer; each of them was
answered in the negative.  And it has recorded and counted the questions that came up while they
were being answered, which the stories of the searches tell of each query apart from the others. -/
theorem askAll_eq_each (env : Environment) (limits : Limits) (queries : List Query) :
    let fresh : Handle := { env, limits }
    let replies := (fresh.askAll queries).1
    let last := (fresh.askAll queries).2
    replies = queries.map (fun query => (fresh.ask query).1) ∧
    last.indeterminate =
      queries.countP (fun query => query.isRefused env limits) ∧
    (∀ query : Query,
      (fresh.ask query).1.answer =
        (if query.isRefused env limits then .ok query.refusal
          else (query.evaluate env limits).outcome) ∧
      (query.refusal = .truth false ∨ query.refusal = .method none) ∧
      (fresh.ask query).1.events =
        (query.recurring env limits).map .assumed ++ query.refusedEvents env limits) ∧
    last.cycles = (queries.map fun query => (query.recurring env limits).length).sum := by
  intro fresh replies last
  have counted := fresh.askAll_counts queries
  refine ⟨congrArg Prod.fst counted, ?_, fun query => ?_, ?_⟩
  · simp only [last, counted]
    exact Nat.zero_add _
  · obtain ⟨-, answered, recorded⟩ := fresh.ask_counts query
    exact ⟨answered, refusal_eq query, recorded⟩
  · simp only [last, counted]
    exact Nat.zero_add _

end Handle
end JavaTypes
