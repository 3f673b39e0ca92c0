import JavaTypes.Hierarchy
import Mathlib.Data.Finset.Card
import Mathlib.Data.Finset.Range
import Mathlib.Logic.Relation

/-!
# How walks go on

One equation for each way in which a walk goes on, and induction along them.  A walk enters a branching
node at most once, so that with room for every branching node it comes to its own end.
-/

namespace JavaTypes
namespace Graph

/-- Whether a walk follows a reference from one identity to another. -/
def Leads (branches : TypeId → Option (List TypeId)) (id next : TypeId) : Prop :=
  ∃ references ∈ branches id, next ∈ references

/-- The number of identities below a bound that have not been entered. -/
def unentered (size : Nat) (entered : Entered) : Nat :=
  ((Finset.range size).filter fun raw => TypeId.mk raw ∉ entered).card

theorem unentered_le (size : Nat) (entered : Entered) : unentered size entered ≤ size :=
  (Finset.card_filter_le _ _).trans_eq (Finset.card_range size)

theorem mem_insert_entered {entered : Entered} {id other : TypeId} :
    other ∈ entered.insert id ↔ other = id ∨ other ∈ entered := by
  rw [Std.TreeSet.mem_insert, Std.LawfulEqCmp.compare_eq_iff_eq, eq_comm]

theorem unentered_insert_lt {size : Nat} {entered : Entered} {id : TypeId} (inside : id.raw < size)
    (fresh : id ∉ entered) : unentered size (entered.insert id) < unentered size entered := by
  refine Finset.card_lt_card (Finset.ssubset_iff_of_subset ?_ |>.mpr ⟨id.raw, ?_, ?_⟩)
  · intro raw left
    rw [Finset.mem_filter, mem_insert_entered, not_or] at left
    exact Finset.mem_filter.mpr ⟨left.1, left.2.2⟩
  · exact Finset.mem_filter.mpr ⟨Finset.mem_range.mpr inside, fresh⟩
  · intro left
    exact (Finset.mem_filter.mp left).2 (mem_insert_entered.mpr (Or.inl rfl))

variable {branches : TypeId → Option (List TypeId)} {fuel : Nat} {entered : Entered}
  {pending references : List TypeId} {id : TypeId}

theorem walkFrom_nil : walkFrom branches (fuel + 1) entered [] = .nil := rfl

theorem walkFrom_of_leaf (leaf : branches id = none) :
    walkFrom branches (fuel + 1) entered (id :: pending) =
      .cons id fun _ => walkFrom branches (fuel + 1) entered pending := by
  rw [walkFrom, scan, leaf]
  rfl

theorem walkFrom_of_entered (branching : branches id = some references) (again : id ∈ entered) :
    walkFrom branches (fuel + 1) entered (id :: pending) =
      walkFrom branches (fuel + 1) entered pending := by
  rw [walkFrom, scan, branching]
  exact if_pos (Std.TreeSet.contains_iff_mem.mpr again)

theorem walkFrom_of_fresh (branching : branches id = some references) (fresh : id ∉ entered) :
    walkFrom branches (fuel + 1) entered (id :: pending) =
      .cons id fun _ => walkFrom branches fuel (entered.insert id) (references ++ pending) := by
  rw [walkFrom, scan, branching]
  exact if_neg (mt Std.TreeSet.contains_iff_mem.mp fresh)

/-- What holds of walks that end and passes on from the rest of a walk to the whole holds of every
walk. -/
theorem walk_induction (branches : TypeId → Option (List TypeId))
    {motive : Nat → Entered → List TypeId → Prop}
    (exhausted : ∀ entered pending, motive 0 entered pending)
    (done : ∀ fuel entered, motive (fuel + 1) entered [])
    (leaf : ∀ fuel entered id pending, branches id = none → motive (fuel + 1) entered pending →
      motive (fuel + 1) entered (id :: pending))
    (again : ∀ fuel entered id pending references, branches id = some references →
      id ∈ entered → motive (fuel + 1) entered pending → motive (fuel + 1) entered (id :: pending))
    (fresh : ∀ fuel entered id pending references, branches id = some references →
      id ∉ entered → motive fuel (entered.insert id) (references ++ pending) →
      motive (fuel + 1) entered (id :: pending))
    (fuel : Nat) (entered : Entered) (pending : List TypeId) : motive fuel entered pending := by
  induction fuel generalizing entered pending with
  | zero => exact exhausted entered pending
  | succ fuel ih =>
      induction pending with
      | nil => exact done fuel entered
      | cons id pending rest =>
          cases branching : branches id with
          | none => exact leaf fuel entered id pending branching rest
          | some references =>
              by_cases known : id ∈ entered
              · exact again fuel entered id pending references branching known rest
              · exact fresh fuel entered id pending references branching known (ih _ _)

/-- A walk that has room for every branching node goes no further with more room. -/
theorem walkFrom_of_more {size : Nat}
    (inside : ∀ id references, branches id = some references → id.raw < size)
    (room : unentered size entered < fuel) (more : Nat) :
    walkFrom branches (fuel + more) entered pending = walkFrom branches fuel entered pending := by
  induction fuel, entered, pending using walk_induction branches with
  | exhausted entered pending => exact absurd room (Nat.not_lt_zero _)
  | done fuel entered => rw [Nat.succ_add, walkFrom_nil, walkFrom_nil]
  | leaf fuel entered id pending leaf ih =>
      have rest := ih room
      rw [Nat.succ_add] at rest ⊢
      rw [walkFrom_of_leaf leaf, walkFrom_of_leaf leaf, rest]
  | again fuel entered id pending references branching known ih =>
      have rest := ih room
      rw [Nat.succ_add] at rest ⊢
      rw [walkFrom_of_entered branching known, walkFrom_of_entered branching known, rest]
  | fresh fuel entered id pending references branching fresh ih =>
      have room_next : unentered size (entered.insert id) < fuel :=
        (unentered_insert_lt (inside id references branching) fresh).trans_le
          (Nat.le_of_lt_succ room)
      rw [Nat.succ_add, walkFrom_of_fresh branching fresh, walkFrom_of_fresh branching fresh,
        ih room_next]

/-- Two walks are the same where what is met refers to the same. -/
theorem walkFrom_congr {other : TypeId → Option (List TypeId)}
    (alike : ∀ start ∈ pending, ∀ id, Relation.ReflTransGen (Leads branches) start id →
      branches id = other id) :
    walkFrom branches fuel entered pending = walkFrom other fuel entered pending := by
  induction fuel, entered, pending using walk_induction branches with
  | exhausted entered pending => rfl
  | done fuel entered => rfl
  | leaf fuel entered id pending leaf ih =>
      obtain ⟨here, behind⟩ := List.forall_mem_cons.mp alike
      rw [walkFrom_of_leaf leaf, walkFrom_of_leaf ((here id .refl).symm.trans leaf), ih behind]
  | again fuel entered id pending references branching known ih =>
      obtain ⟨here, behind⟩ := List.forall_mem_cons.mp alike
      rw [walkFrom_of_entered branching known,
        walkFrom_of_entered ((here id .refl).symm.trans branching) known, ih behind]
  | fresh fuel entered id pending references branching fresh ih =>
      obtain ⟨here, behind⟩ := List.forall_mem_cons.mp alike
      have below : ∀ start ∈ references, ∀ id, Relation.ReflTransGen (Leads branches) start id →
          branches id = other id :=
        fun start referred met path => here met (.head ⟨references, branching, referred⟩ path)
      rw [walkFrom_of_fresh branching fresh,
        walkFrom_of_fresh ((here id .refl).symm.trans branching) fresh,
        ih (List.forall_mem_append.mpr ⟨below, behind⟩)]

end Graph
end JavaTypes
