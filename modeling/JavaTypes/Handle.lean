import JavaTypes.Overriding
import JavaTypes.Walks

/-!
# Handles

A handle answers queries about one environment under one set of limits.  Each query is a search of
its own; what the handle keeps from one query to the next are two counters.  A query that has no
answer counts as refused, except for those that ask to be told why.
-/

namespace JavaTypes

/-- A query to a handle. -/
inductive Query where
  | ofType (target source : TypeId) (mode : Mode)
  | assignable (target source : TypeId) (mode : Mode)
  /-- Like `ofType`, and tells why there is no answer. -/
  | tryOfType (target source : TypeId) (mode : Mode)
  /-- Like `assignable`, and tells why there is no answer. -/
  | tryAssignable (target source : TypeId) (mode : Mode)
  /-- Whether a type that the source extends or stands for bears a name. -/
  | assignableToName (name : String) (source : TypeId)
  /-- Whether a type that the source extends or stands for has a name that matches. -/
  | assignableToPattern (matching : String → Bool) (source : TypeId)
  /-- Whether a test, which may remember what it was asked, the latest first, accepts a type that
  the source extends or stands for. -/
  | assignableToPredicate (accepts : List TypeId → TypeId → Bool) (source : TypeId)
  /-- Whether a type comes down to a named class. -/
  | ofClassType (type : TypeId) (name : String)
  /-- Whether a test accepts the name of a type or, if wanted, of one of its supertypes. -/
  | ofTypeWithName (type : Option TypeId) (supertypesCount : Bool) (accepts : String → Bool)
  | overriddenMethod (method : TypeId)
  /-- Whether a method overrides another. -/
  | isOverride (method : TypeId)
  | declaredMethod (type : Option TypeId) (name : String) (arguments : List TypeId)

/-- The answer to a query. -/
inductive Answer where
  | truth (holds : Bool)
  | method (found : Option TypeId)
  deriving DecidableEq, Repr

/-- How a query was evaluated. -/
structure Evaluation where
  outcome : Except Indeterminate Answer
  /-- The types that a test was asked about, in order. -/
  askedTypes : List TypeId := []
  /-- The names that a test was asked about, in order. -/
  askedNames : List String := []
  /-- The state in which the search ended. -/
  guard : Guard := {}

namespace Evaluation

/-- The evaluation of a query by a search. -/
def ofSearch {α : Type} (answer : α → Answer) (search : Search α) : Evaluation :=
  let (outcome, guard) := search {}
  { outcome := outcome.map answer, guard }

/-- The evaluation of a query by asking a test about types. -/
def ofTypes (inquiry : Inquiry TypeId) : Evaluation :=
  { outcome := inquiry.outcome.map .truth, askedTypes := inquiry.asked }

/-- The evaluation of a query by asking a test about names. -/
def ofNames (inquiry : Inquiry String) : Evaluation :=
  { outcome := inquiry.outcome.map .truth, askedNames := inquiry.asked }

end Evaluation

namespace Query

/-- Evaluates a query in an environment under limits. -/
def evaluate (env : Environment) (limits : Limits) : Query → Evaluation
  | ofType target source mode | tryOfType target source mode =>
    .ofSearch .truth (env.toGraph.ask limits ⟨.ofType, target, source, mode⟩)
  | assignable target source mode | tryAssignable target source mode =>
    .ofSearch .truth (env.toGraph.ask limits ⟨.assignableTo, target, source, mode⟩)
  | assignableToName name source =>
    .ofSearch .truth (env.toGraph.prove limits (env.toGraph.fitsName name source))
  | assignableToPattern matching source => .ofTypes (env.toGraph.askPattern matching source)
  | assignableToPredicate accepts source => .ofTypes (env.toGraph.askTypes accepts source)
  | ofClassType type name =>
    .ofSearch .truth (env.toGraph.prove limits (env.toGraph.ofClass name type))
  | ofTypeWithName none _ _ => { outcome := .ok (.truth false) }
  | ofTypeWithName (some type) supertypesCount accepts =>
    .ofNames (env.toGraph.askNames supertypesCount accepts type)
  | overriddenMethod method => .ofSearch .method (env.overriddenMethod limits method)
  | isOverride method =>
    .ofSearch (fun found => .truth (Option.isSome found)) (env.overriddenMethod limits method)
  | declaredMethod none _ _ => { outcome := .ok (.method none) }
  | declaredMethod (some type) name arguments =>
    .ofSearch .method (env.toGraph.declaredMethod limits type name arguments)

/-- Under which name a query without an answer is recorded; the queries that tell why are not. -/
def recordedAs? : Query → Option String
  | ofType _ _ _ => some "is_of_type"
  | assignable _ _ _ => some "is_assignable_to"
  | tryOfType _ _ _ | tryAssignable _ _ _ => none
  | assignableToName _ _ => some "is_assignable_to_name"
  | assignableToPattern _ _ => some "is_assignable_to_pattern"
  | assignableToPredicate _ _ => some "is_assignable_to_predicate"
  | ofClassType _ _ => some "is_of_class_type"
  | ofTypeWithName _ _ _ => some "is_of_type_with_name"
  | overriddenMethod _ | isOverride _ => some "find_overridden_method"
  | declaredMethod _ _ _ => some "find_declared_method"

/-- The answer that stands for none. -/
def refusal : Query → Answer
  | overriddenMethod _ | declaredMethod _ _ _ => .method none
  | _ => .truth false

end Query

/-- What a handle records while it answers. -/
inductive Event where
  /-- A question came up while it was being answered. -/
  | assumed (question : Question)
  /-- A query ended without an answer. -/
  | refused (query : String) (cause : Indeterminate)
  deriving DecidableEq, Repr

namespace Event

/-- The event in words. -/
def describe : Event → String
  | assumed question =>
    "TRACE relation=" ++ question.relation.label ++ " target_type=" ++ question.target.describe ++
      " source_type=" ++ question.source.describe
  | refused query cause => "DEBUG op=" ++ query ++ " error=" ++ cause.message

end Event

/-- What a handle replies to a query. -/
structure Reply where
  /-- The answer, or why there is none where the query asks to be told. -/
  answer : Except Indeterminate Answer
  askedTypes : List TypeId
  askedNames : List String
  /-- What was recorded, in order. -/
  events : List Event

/-- Answers queries about one environment and counts what happens on the way. -/
structure Handle where
  env : Environment
  limits : Limits := {}
  /-- How many queries ended without an answer and did not tell why. -/
  indeterminate : Nat := 0
  /-- How many questions were assumed to hold. -/
  cycles : Nat := 0

namespace Handle

/-- Answers one query. -/
def ask (handle : Handle) (query : Query) : Reply × Handle :=
  let evaluation := query.evaluate handle.env handle.limits
  let assumed := evaluation.guard.cycles.reverse.map Event.assumed
  let counted := { handle with cycles := handle.cycles + evaluation.guard.cycles.length }
  let reply : Reply :=
    { answer := evaluation.outcome
      askedTypes := evaluation.askedTypes
      askedNames := evaluation.askedNames
      events := assumed }
  match evaluation.outcome, query.recordedAs? with
  | .error cause, some name =>
    ({ reply with answer := .ok query.refusal, events := assumed ++ [.refused name cause] },
      { counted with indeterminate := handle.indeterminate + 1 })
  | _, _ => (reply, counted)

/-- Answers queries one after the other. -/
def askAll (handle : Handle) : List Query → List Reply × Handle
  | [] => ([], handle)
  | query :: queries =>
    let (reply, next) := handle.ask query
    let (replies, last) := next.askAll queries
    (reply :: replies, last)

end Handle
end JavaTypes
