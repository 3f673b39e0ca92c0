import JavaTypes.Goal
import Std.Data.ExtTreeSet

/-!
# The guard of a search

A search keeps the questions that are being answered and counts those that were asked.  A question
that comes up while it is being answered is assumed to hold, and the guard remembers that it was.
-/

namespace JavaTypes

namespace Question

/-- Tells apart the questions about the same two types. -/
def kind (question : Question) : Nat :=
  (match question.relation with
    | .ofType => 0
    | .assignableTo => 3) +
  (match question.mode with
    | .bound => 0
    | .infer => 1
    | .reverse => 2)

/-- Questions are ordered by the target, the source and then the kind. -/
instance : Ord Question where
  compare :=
    compareLex (compareOn target) (compareLex (compareOn source) (compareOn kind))

instance : Std.TransOrd Question := inferInstanceAs (Std.TransCmp (compareLex _ _))

theorem eq_of_kind_eq {first second : Question} (target : first.target = second.target)
    (source : first.source = second.source) (kind : first.kind = second.kind) :
    first = second := by
  obtain ⟨relation, _, _, mode⟩ := first
  obtain ⟨otherRelation, _, _, otherMode⟩ := second
  cases relation <;> cases otherRelation <;> cases mode <;> cases otherMode <;>
    simp_all [Question.kind]

instance : Std.LawfulEqOrd Question where
  eq_of_compare {first second} h := by
    obtain ⟨target, rest⟩ := Ordering.then_eq_eq.1 h
    obtain ⟨source, kind⟩ := Ordering.then_eq_eq.1 rest
    exact eq_of_kind_eq (Std.LawfulEqOrd.eq_of_compare target)
      (Std.LawfulEqOrd.eq_of_compare source) (Std.LawfulEqOrd.eq_of_compare kind)

end Question

/-- The state of a search. -/
structure Guard where
  /-- The questions being answered. -/
  active : Std.ExtTreeSet Question := ∅
  /-- How many questions were asked. -/
  entries : Nat := 0
  /-- The questions that were assumed to hold, the latest first. -/
  cycles : List Question := []
  /-- One more than the largest number of open questions at which another was asked. -/
  reach : Nat := 0
  /-- How many questions are open, counted up and down. -/
  counted : UInt32 := 0
  /-- The largest number to which they were counted. -/
  deepest : Nat := 0
  /-- How often a question was closed that was not open. -/
  strayLeaves : Nat := 0

namespace Guard

/-- How many questions are open. -/
def depth (guard : Guard) : Nat := guard.active.size

/-- Counts a question that is asked. -/
def ask (guard : Guard) : Guard :=
  { guard with entries := guard.entries + 1, reach := max guard.reach (guard.depth + 1) }

/-- Remembers a question that is assumed to hold. -/
def assume (guard : Guard) (question : Question) : Guard :=
  { guard with cycles := question :: guard.cycles }

/-- Opens a question. -/
def enter (guard : Guard) (question : Question) : Guard :=
  { guard with
    active := guard.active.insert question
    counted := guard.counted + 1
    deepest := max guard.deepest (guard.counted + 1).toNat }

/-- Closes a question.  The count stops at zero. -/
def leave (guard : Guard) (question : Question) : Guard :=
  { guard with
    active := guard.active.erase question
    counted := if guard.counted = 0 then 0 else guard.counted - 1
    strayLeaves := if question ∈ guard.active then guard.strayLeaves else guard.strayLeaves + 1 }

theorem leave_enter_active (guard : Guard) (question : Question) (h : question ∉ guard.active) :
    ((guard.enter question).leave question).active = guard.active := by
  ext other
  by_cases same : question = other
  · simp [enter, leave, ← same, h]
  · simp [enter, leave, same]

end Guard

/-- A computation that asks questions: it ends with an answer or without, and with the state of the
search in either case. -/
abbrev Search (α : Type) := Guard → Except Indeterminate α × Guard

namespace Goal

/-- Tries a goal from left to right, asking questions by `ask`. -/
def solve (ask : Question → Search Bool) : Goal → Search Bool
  | decided answer, guard => (.ok answer, guard)
  | stuck cause, guard => (.error cause, guard)
  | compare question, guard => ask question guard
  | both first second, guard =>
    match first.solve ask guard with
    | (.ok true, guard) => second.solve ask guard
    | (.ok false, guard) => (.ok false, guard)
    | (.error cause, guard) => (.error cause, guard)
  | either first second, guard =>
    match first.solve ask guard with
    | (.ok false, guard) => (second ()).solve ask guard
    | (.ok true, guard) => (.ok true, guard)
    | (.error cause, guard) => (.error cause, guard)

/-- The first of several candidates whose goal holds. -/
def firstHolding (ask : Question → Search Bool) :
    LazyList (TypeId × Goal) → Search (Option TypeId)
  | .nil, guard => (.ok none, guard)
  | .cons (candidate, goal) rest, guard =>
    match goal.solve ask guard with
    | (.ok true, guard) => (.ok (some candidate), guard)
    | (.ok false, guard) => firstHolding ask (rest ()) guard
    | (.error cause, guard) => (.error cause, guard)

end Goal
end JavaTypes
