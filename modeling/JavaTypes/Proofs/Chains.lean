import Mathlib.Data.Finset.Card
import Mathlib.Data.Finset.Range

/-!
# Chains

A chain goes on from each of its members to at most one other.  It ends at a member that leads
nowhere, or it comes to a member again and then never ends.  A chain through finitely many members
does one or the other.
-/

namespace JavaTypes
namespace Chain

variable {α : Type}

/-- The member of a chain in a position, unless the chain ends before. -/
def member? (next : α → Option α) (start : α) : Nat → Option α
  | 0 => some start
  | position + 1 => (member? next start position).bind next

/-- Whether a chain ends at a member after a number of steps. -/
structure EndsAt (next : α → Option α) (start : α) (length : Nat) (last : α) : Prop where
  reached : member? next start length = some last
  ends : next last = none

/-- Whether a chain comes to some member again. -/
def Circles (next : α → Option α) (start : α) : Prop :=
  ∃ first second, first < second ∧
    ∃ again, member? next start first = some again ∧ member? next start second = some again

variable {next : α → Option α} {start member last other : α}
  {position later length otherLength : Nat}

theorem member?_add (next : α → Option α) (start : α) (first second : Nat) :
    member? next start (first + second) =
      (member? next start first).bind fun middle => member? next middle second := by
  induction second with
  | zero => simp [member?]
  | succ second ih => rw [← Nat.add_assoc, member?, ih, Option.bind_assoc]; rfl

theorem exists_member?_of_le (found : member? next start later = some member)
    (le : position ≤ later) : ∃ earlier, member? next start position = some earlier := by
  obtain ⟨steps, rfl⟩ := Nat.exists_eq_add_of_le le
  rw [member?_add, Option.bind_eq_some_iff] at found
  obtain ⟨earlier, earlier_eq, -⟩ := found
  exact ⟨earlier, earlier_eq⟩

/-- What comes before another member leads on to something. -/
theorem exists_leading_of_lt (found : member? next start later = some member)
    (lt : position < later) :
    ∃ earlier, member? next start position = some earlier ∧ next earlier ≠ none := by
  obtain ⟨following, following_eq⟩ := exists_member?_of_le found (Nat.succ_le_of_lt lt)
  rw [member?, Option.bind_eq_some_iff] at following_eq
  obtain ⟨earlier, earlier_eq, next_eq⟩ := following_eq
  exact ⟨earlier, earlier_eq, by simp [next_eq]⟩

theorem EndsAt.le_length (ended : EndsAt next start length last)
    (found : member? next start position = some member) : position ≤ length := by
  by_contra beyond
  obtain ⟨earlier, earlier_eq, leads⟩ := exists_leading_of_lt found (not_le.mp beyond)
  obtain rfl := Option.some.inj (ended.reached.symm.trans earlier_eq)
  exact leads ended.ends

/-- A chain ends in one place only. -/
theorem EndsAt.unique (ended : EndsAt next start length last)
    (endedToo : EndsAt next start otherLength other) : length = otherLength ∧ last = other := by
  obtain rfl : length = otherLength :=
    le_antisymm (endedToo.le_length ended.reached) (ended.le_length endedToo.reached)
  exact ⟨rfl, Option.some.inj (ended.reached.symm.trans endedToo.reached)⟩

/-- A chain that comes to a member again goes on for ever, wherever it came to the member first. -/
theorem Circles.exists_member? (circles : Circles next start) (position : Nat) :
    ∃ member, member? next start position = some member := by
  obtain ⟨first, second, lt, again, found, foundToo⟩ := circles
  obtain ⟨period, rfl⟩ := Nat.exists_eq_add_of_le lt.le
  have period_pos : 0 < period := by omega
  have returns : member? next again period = some again := by
    rwa [member?_add, found, Option.bind_some] at foundToo
  have round (turns : Nat) : member? next again (turns * period) = some again := by
    induction turns with
    | zero => rw [Nat.zero_mul, member?]
    | succ turns ih => rw [Nat.succ_mul, member?_add, ih, Option.bind_some, returns]
  have far : member? next start (first + position * period) = some again := by
    rw [member?_add, found, Option.bind_some, round]
  have le_far : position ≤ first + position * period :=
    Nat.le_add_left_of_le (Nat.le_mul_of_pos_right position period_pos)
  exact exists_member?_of_le far le_far

theorem Circles.not_endsAt (circles : Circles next start) : ¬ EndsAt next start length last := by
  intro ended
  obtain ⟨member, found⟩ := circles.exists_member? (length + 1)
  exact absurd (ended.le_length found) (Nat.not_succ_le_self length)

/-- Up to any position a chain has ended or still goes on. -/
theorem exists_endsAt_or_member? (next : α → Option α) (start : α) (position : Nat) :
    (∃ length < position, ∃ last, EndsAt next start length last) ∨
      ∃ member, member? next start position = some member := by
  induction position with
  | zero => exact Or.inr ⟨start, rfl⟩
  | succ position ih =>
      rcases ih with ⟨length, lt, ended⟩ | ⟨member, found⟩
      · exact Or.inl ⟨length, Nat.lt_succ_of_lt lt, ended⟩
      · cases leads : next member with
        | none => exact Or.inl ⟨position, Nat.lt_succ_self position, member, found, leads⟩
        | some following =>
            exact Or.inr ⟨following, by rw [member?, found, Option.bind_some, leads]⟩

/-- A chain of which finitely many members lead on comes to one of them again, or it ends after at
most as many steps. -/
theorem circles_or_endsAt {leading : Finset α}
    (inside : ∀ position member, member? next start position = some member →
      next member ≠ none → member ∈ leading) :
    Circles next start ∨ ∃ length ≤ leading.card, ∃ last, EndsAt next start length last := by
  rcases exists_endsAt_or_member? next start (leading.card + 1) with
    ⟨length, lt, ended⟩ | ⟨final, final_eq⟩
  · exact Or.inr ⟨length, Nat.le_of_lt_succ lt, ended⟩
  · left
    have maps : Set.MapsTo (member? next start) (Finset.range (leading.card + 1))
        (leading.map .some) := by
      intro position position_mem
      obtain ⟨member, found, leads⟩ :=
        exists_leading_of_lt final_eq (Finset.mem_range.mp (Finset.mem_coe.mp position_mem))
      exact Finset.mem_map.mpr ⟨member, inside position member found leads, found.symm⟩
    obtain ⟨first, first_mem, second, -, ne, same⟩ :=
      Finset.exists_ne_map_eq_of_card_lt_of_maps_to (by simp) maps
    obtain ⟨again, again_mem, found⟩ := Finset.mem_map.mp (maps first_mem)
    rcases lt_or_gt_of_ne ne with lt | gt
    · exact ⟨first, second, lt, again, found.symm, (found.trans same).symm⟩
    · exact ⟨second, first, gt, again, (found.trans same).symm, found.symm⟩

end Chain
end JavaTypes
