import JavaTypes.Pattern.Search
import Mathlib.Data.Nat.Bitwise
import Mathlib.Logic.Relation

/-!
# Where matches lead

From a set of positions a search comes to those to which an expression leads from one of the set.
Expressions lead on within the text, and expressions that are put together, however they are joined,
lead first as the one and then as the other.
-/

namespace JavaTypes
namespace Pattern

open Text (CodeSet)

namespace Subject

/-- Whether characters occur only before positions of the text other than the last. -/
def WellFormed (subject : Subject) : Prop :=
  ∀ entry ∈ subject.occurrences, entry.2 < 2 ^ subject.length

theorem occur_lt {position : Nat} {c : Char} {entries : List (Char × Nat)}
    (bounded : ∀ entry ∈ entries, entry.2 < 2 ^ position) :
    ∀ entry ∈ occur position c entries, entry.2 < 2 ^ (position + 1) := by
  have single : 1 <<< position < 2 ^ (position + 1) := by
    rw [Nat.one_shiftLeft]
    exact Nat.pow_lt_pow_succ (by decide)
  have wider {places : Nat} (bound : places < 2 ^ position) : places < 2 ^ (position + 1) :=
    bound.trans (Nat.pow_lt_pow_succ (by decide))
  induction entries with
  | nil => simpa [occur] using single
  | cons entry entries ih =>
      obtain ⟨other, places⟩ := entry
      obtain ⟨first, rest⟩ := List.forall_mem_cons.mp bounded
      by_cases same : other = c
      · rw [occur, if_pos same]
        exact List.forall_mem_cons.mpr
          ⟨Nat.or_lt_two_pow (wider first) single, fun entry member => wider (rest entry member)⟩
      · rw [occur, if_neg same]
        exact List.forall_mem_cons.mpr ⟨wider first, ih rest⟩

theorem wellFormed_ofChars (chars : List Char) : (ofChars chars).WellFormed := by
  have added (subject : Subject) (formed : subject.WellFormed) :
      (chars.foldl (fun subject c =>
        { length := subject.length + 1
          occurrences := occur subject.length c subject.occurrences }) subject).WellFormed := by
    induction chars generalizing subject with
    | nil => exact formed
    | cons c chars ih => exact ih _ (occur_lt formed)
  exact added _ fun entry member => by simp at member

theorem before_lt {subject : Subject} (formed : subject.WellFormed) (members : CodeSet) :
    subject.before members < 2 ^ subject.length := by
  apply List.foldlRecOn (motive := (· < 2 ^ subject.length))
  · exact Nat.two_pow_pos _
  · intro positions bound entry member
    dsimp only
    split
    · exact Nat.or_lt_two_pow bound (formed entry member)
    · exact bound

theorem length_ofChars (chars : List Char) : (ofChars chars).length = chars.length := by
  have added (subject : Subject) :
      (chars.foldl (fun subject c =>
        { length := subject.length + 1
          occurrences := occur subject.length c subject.occurrences }) subject).length =
        subject.length + chars.length := by
    induction chars generalizing subject with
    | nil => rfl
    | cons c chars ih =>
        rw [List.foldl_cons, ih, List.length_cons]
        exact Nat.succ_add_eq_add_succ _ _
  exact (added _).trans (Nat.zero_add _)

theorem testBit_positions (subject : Subject) (position : Nat) :
    subject.positions.testBit position = true ↔ position ≤ subject.length := by
  rw [positions, Nat.one_shiftLeft, Nat.testBit_two_pow_sub_one, decide_eq_true_iff]
  exact Nat.lt_succ_iff

theorem testBit_less (first second position : Nat) :
    (less first second).testBit position = true ↔
      first.testBit position = true ∧ second.testBit position = false := by
  rw [less, Nat.testBit_xor, Nat.testBit_or]
  cases first.testBit position <;> cases second.testBit position <;> decide

theorem testBit_before_lt {subject : Subject} (formed : subject.WellFormed) {members : CodeSet}
    {position : Nat} (found : (subject.before members).testBit position = true) :
    position < subject.length :=
  (Nat.pow_lt_pow_iff_right (by decide)).mp
    ((Nat.ge_two_pow_of_testBit found).trans_lt (before_lt formed members))

end Subject

namespace Moves

/-- Whether a number of steps lead from one position to another. -/
def Repeats (leads : Nat → Nat → Prop) : Nat → Nat → Nat → Prop
  | 0, start, finish => start = finish
  | count + 1, start, finish => Relation.Comp leads (Repeats leads count) start finish

/-- Whether at most some number of steps lead from one position to another. -/
def RepeatsUpTo (leads : Nat → Nat → Prop) (most start finish : Nat) : Prop :=
  ∃ count ≤ most, Repeats leads count start finish

/-- Whether moves lead from one position to another. -/
def Leads : Moves → Nat → Nat → Prop
  | stay kept, start, finish => kept.testBit start = true ∧ start = finish
  | step left, start, finish => left.testBit start = true ∧ start + 1 = finish
  | andThen first second, start, finish => Relation.Comp first.Leads second.Leads start finish
  | orElse first second, start, finish => first.Leads start finish ∨ second.Leads start finish
  | again body least more, start, finish =>
    Relation.Comp (Repeats body.Leads least) (RepeatsUpTo body.Leads more) start finish

/-- Whether a set of positions is taken to those to which there is a way from one of them. -/
def Follows (move : Nat → Nat) (leads : Nat → Nat → Prop) : Prop :=
  ∀ positions finish, (move positions).testBit finish = true ↔
    ∃ start, positions.testBit start = true ∧ leads start finish

variable {move : Nat → Nat} {leads : Nat → Nat → Prop}

theorem Follows.comp {next : Nat → Nat} {onward : Nat → Nat → Prop} (follows : Follows move leads)
    (follows_next : Follows next onward) :
    Follows (fun positions => next (move positions)) (Relation.Comp leads onward) := by
  intro positions finish
  rw [follows_next]
  constructor
  · rintro ⟨between, member, way⟩
    obtain ⟨start, member, first⟩ := (follows positions between).mp member
    exact ⟨start, member, between, first, way⟩
  · rintro ⟨start, member, between, first, way⟩
    exact ⟨between, (follows positions between).mpr ⟨start, member, first⟩, way⟩

theorem Follows.times (follows : Follows move leads) (count : Nat) :
    Follows (times move count) (Repeats leads count) := by
  induction count with
  | zero => simp [Follows, Moves.times, Repeats]
  | succ count ih =>
      intro positions finish
      rw [Moves.times]
      split
      · next nowhere => simp [nowhere]
      · exact follows.comp ih positions finish

/-- Whether steps from a set lead to its members, but for those from fresh ones. -/
def Explored (leads : Nat → Nat → Prop) (reached fresh : Nat) : Prop :=
  ∀ ⦃start finish⦄, reached.testBit start = true → fresh.testBit start = false →
    leads start finish → reached.testBit finish = true

/-- A way out of an explored set goes through one of its fresh members. -/
theorem Explored.repeats {reached fresh : Nat} (explored : Explored leads reached fresh)
    {count start finish : Nat} (member : reached.testBit start = true)
    (way : Repeats leads count start finish) :
    reached.testBit finish = true ∨ ∃ between, fresh.testBit between = true ∧
      RepeatsUpTo leads count between finish := by
  induction count generalizing start with
  | zero => exact .inl (way ▸ member)
  | succ count ih =>
      obtain ⟨between, first, rest⟩ := way
      by_cases new : fresh.testBit start = true
      · exact .inr ⟨start, new, count + 1, le_rfl, between, first, rest⟩
      · have met := explored member (Bool.not_eq_true _ ▸ new) first
        refine (ih met rest).imp_right ?_
        rintro ⟨between, new, fewer, bound, way⟩
        exact ⟨between, new, fewer, bound.trans (Nat.le_succ count), way⟩

/-- What one step from the fresh members of a set adds to it. -/
theorem testBit_added (follows : Follows move leads) (reached fresh position : Nat) :
    (Subject.less (move fresh) reached).testBit position = true ↔
      (∃ start, fresh.testBit start = true ∧ leads start position) ∧
        reached.testBit position = false := by
  rw [Subject.testBit_less, follows]

theorem testBit_union (first second position : Nat) : (first ||| second).testBit position = true ↔
    first.testBit position = true ∨ second.testBit position = true := by
  rw [Nat.testBit_or, Bool.or_eq_true]

/-- With what one step from the fresh members adds, a set is explored but for what is added. -/
theorem Explored.added {reached fresh : Nat} (explored : Explored leads reached fresh)
    (follows : Follows move leads) :
    Explored leads (reached ||| Subject.less (move fresh) reached)
      (Subject.less (move fresh) reached) := by
  intro start finish member old step
  have known := ((testBit_union _ _ _).mp member).resolve_right (by simp [old])
  refine (testBit_union _ _ _).mpr ?_
  by_cases met : reached.testBit finish = true
  · exact .inl met
  · by_cases new : fresh.testBit start = true
    · exact .inr ((testBit_added follows _ _ _).mpr
        ⟨⟨start, new, step⟩, Bool.not_eq_true _ ▸ met⟩)
    · exact .inl (explored known (Bool.not_eq_true _ ▸ new) step)

/-- Spreading from the fresh members of an explored set reaches what few enough steps reach. -/
theorem testBit_spread (follows : Follows move leads) (count : Nat) {reached fresh : Nat}
    (explored : Explored leads reached fresh)
    (included : ∀ position, fresh.testBit position = true → reached.testBit position = true)
    (finish : Nat) :
    (spread move count reached fresh).testBit finish = true ↔
      reached.testBit finish = true ∨ ∃ start, fresh.testBit start = true ∧
        RepeatsUpTo leads count start finish := by
  induction count generalizing reached fresh with
  | zero =>
      rw [spread]
      refine ⟨.inl, fun found => found.elim id ?_⟩
      rintro ⟨start, new, _, bound, way⟩
      obtain rfl := Nat.le_zero.mp bound
      exact way ▸ included start new
  | succ count ih =>
      have mem_next := testBit_added follows reached fresh
      have explored_next := explored.added follows
      generalize next_eq : Subject.less (move fresh) reached = next at mem_next explored_next
      have found : (spread move (count + 1) reached fresh).testBit finish = true ↔
          (reached ||| next).testBit finish = true ∨ ∃ start, next.testBit start = true ∧
            RepeatsUpTo leads count start finish := by
        rw [spread, next_eq]
        split
        · next none_next => simp [none_next]
        · exact ih explored_next fun position new => (testBit_union _ _ _).mpr (.inr new)
      rw [found, testBit_union, or_assoc]
      constructor
      · rintro (member | new | ⟨start, new, steps, bound, way⟩)
        · exact .inl member
        · obtain ⟨⟨start, old, step⟩, -⟩ := (mem_next finish).mp new
          exact .inr ⟨start, old, 1, Nat.succ_pos count, finish, step, rfl⟩
        · obtain ⟨⟨before, old, step⟩, -⟩ := (mem_next start).mp new
          exact .inr ⟨before, old, steps + 1, Nat.succ_le_succ bound, start, step, way⟩
      · rintro (member | ⟨start, old, steps, bound, way⟩)
        · exact .inl member
        · cases steps with
          | zero => exact .inl (way ▸ included start old)
          | succ steps =>
              obtain ⟨between, step, rest⟩ := way
              have known := included start old
              have not_next : next.testBit start = false :=
                eq_false_of_ne_true fun new => by simpa [known] using ((mem_next start).mp new).2
              have met := explored_next ((testBit_union _ _ _).mpr (.inl known)) not_next step
              obtain met | ⟨first, new, fewer, less, way⟩ := explored_next.repeats met rest
              · exact ((testBit_union _ _ _).mp met).imp_right .inl
              · have bounded := less.trans (Nat.le_of_succ_le_succ bound)
                exact .inr (.inr ⟨first, new, fewer, bounded, way⟩)

theorem Follows.spread (follows : Follows move leads) (count : Nat) :
    Follows (fun positions => spread move count positions positions)
      (RepeatsUpTo leads count) := by
  intro positions finish
  have explored : Explored leads positions positions :=
    fun _ _ member new => absurd member (by simp [new])
  rw [testBit_spread follows count explored fun _ => id]
  exact or_iff_right_of_imp fun member => ⟨finish, member, 0, Nat.zero_le count, rfl⟩

/-- From a set of positions moves lead to those that they reach from one of them. -/
theorem follows_apply (moves : Moves) : Follows moves.apply moves.Leads := by
  induction moves with
  | stay kept =>
      intro positions finish
      simp [apply, Leads]
  | step left =>
      intro positions finish
      cases finish with
      | zero => simp [apply, Leads]
      | succ finish => simp [apply, Leads, Nat.testBit_shiftLeft]
  | andThen first second first_ih second_ih =>
      intro positions finish
      have composed : (second.apply (first.apply positions)).testBit finish = true ↔ _ :=
        first_ih.comp second_ih positions finish
      rw [apply]
      split
      · next nowhere =>
          rw [nowhere, second_ih] at composed
          simpa [Leads] using composed
      · exact composed
  | orElse first second first_ih second_ih =>
      intro positions finish
      rw [apply, testBit_union, first_ih, second_ih]
      simp only [Leads, and_or_left, exists_or]
  | again body least more ih =>
      intro positions finish
      exact (ih.times least).comp (ih.spread more) positions finish

theorem Repeats.induction {property : Nat → Prop} {count start finish : Nat}
    (way : Repeats leads count start finish) (holds : property start)
    (kept : ∀ start finish, property start → leads start finish → property finish) :
    property finish := by
  induction count generalizing start with
  | zero => exact way ▸ holds
  | succ count ih =>
      obtain ⟨between, first, rest⟩ := way
      exact ih rest (kept start between holds first)

/-- Moves lead forward. -/
theorem Leads.le {moves : Moves} {start finish : Nat} (way : moves.Leads start finish) :
    start ≤ finish := by
  induction moves generalizing start finish with
  | stay kept => exact way.2.le
  | step left => exact way.2 ▸ Nat.le_succ start
  | andThen first second first_ih second_ih =>
      obtain ⟨between, first_way, second_way⟩ := way
      exact (first_ih first_way).trans (second_ih second_way)
  | orElse first second first_ih second_ih => exact way.elim first_ih second_ih
  | again body least more ih =>
      have forward {count origin finish : Nat} (way : Repeats body.Leads count origin finish) :
          origin ≤ finish :=
        way.induction le_rfl fun _ _ bound step => bound.trans (ih step)
      obtain ⟨between, first_way, count, -, second_way⟩ := way
      exact (forward first_way).trans (forward second_way)

end Moves

namespace Expression

open Moves (Leads)

variable {subject : Subject}

/-- Expressions lead on within the text. -/
theorem le_of_leads (formed : subject.WellFormed) {expression : Expression} {start finish : Nat}
    (way : (expression.moves subject).Leads start finish) (within : start ≤ subject.length) :
    finish ≤ subject.length := by
  have stepped {members : CodeSet} {start finish : Nat}
      (way : (Moves.step (subject.before members)).Leads start finish) :
      finish ≤ subject.length := way.2 ▸ Subject.testBit_before_lt formed way.1
  induction expression generalizing start finish with
  | empty | anchor => exact way.2 ▸ within
  | word letters =>
      rw [moves] at way
      induction letters generalizing start with
      | nil => exact way.2 ▸ within
      | cons c letters ih =>
          obtain ⟨between, first, rest⟩ := way
          exact ih rest (stepped first)
  | oneOf members => exact stepped way
  | repeated body least most short ih =>
      obtain ⟨between, first, count, -, rest⟩ := way
      exact rest.induction (first.induction within fun _ _ within way => ih way within)
        fun _ _ within way => ih way within
  | group number body ih => exact ih way within
  | concat first rest first_ih rest_ih =>
      obtain ⟨between, first_way, rest_way⟩ := way
      exact rest_ih rest_way (first_ih first_way within)
  | either first rest first_ih rest_ih =>
      exact way.elim (fun way => first_ih way within) fun way => rest_ih way within

theorem leads_concat (first rest : Expression) :
    ((concat first rest).moves subject).Leads =
      Relation.Comp (first.moves subject).Leads (rest.moves subject).Leads := rfl

theorem leads_empty {start finish : Nat} (within : start ≤ subject.length) :
    (empty.moves subject).Leads start finish ↔ start = finish :=
  and_iff_right ((Subject.testBit_positions subject start).mpr within)

theorem leads_empty_comp {later : Nat → Nat → Prop} {start finish : Nat}
    (within : start ≤ subject.length) :
    Relation.Comp (empty.moves subject).Leads later start finish ↔ later start finish := by
  constructor
  · rintro ⟨between, stays, way⟩
    exact stays.2 ▸ way
  · intro way
    exact ⟨start, (leads_empty within).mpr rfl, way⟩

theorem comp_leads_empty (formed : subject.WellFormed) (expression : Expression)
    {start finish : Nat} (within : start ≤ subject.length) :
    Relation.Comp (expression.moves subject).Leads (empty.moves subject).Leads start finish ↔
      (expression.moves subject).Leads start finish := by
  constructor
  · rintro ⟨between, way, stays⟩
    exact stays.2 ▸ way
  · intro way
    exact ⟨finish, way, (leads_empty (le_of_leads formed way within)).mpr rfl⟩

theorem leads_word_cons (c : Char) (letters : List Char) (start finish : Nat) :
    ((word (c :: letters)).moves subject).Leads start finish ↔
      (subject.before (.single c)).testBit start = true ∧
        ((word letters).moves subject).Leads (start + 1) finish := by
  constructor
  · rintro ⟨between, ⟨member, rfl⟩, way⟩
    exact ⟨member, way⟩
  · rintro ⟨member, way⟩
    exact ⟨start + 1, ⟨member, rfl⟩, way⟩

/-- One word after another is the word of all their letters. -/
theorem leads_word_append (formed : subject.WellFormed) (letters more : List Char)
    {start finish : Nat} (within : start ≤ subject.length) :
    ((word (letters ++ more)).moves subject).Leads start finish ↔
      Relation.Comp ((word letters).moves subject).Leads ((word more).moves subject).Leads
        start finish := by
  induction letters generalizing start with
  | nil => exact (leads_empty_comp within).symm
  | cons c letters ih =>
      simp only [Relation.Comp, List.cons_append, leads_word_cons, and_assoc, exists_and_left]
      exact and_congr_right fun member => ih (Subject.testBit_before_lt formed member)

/-- An expression after another leads on from where the other leads to. -/
theorem leads_append (formed : subject.WellFormed) (first second : Expression) {start finish : Nat}
    (within : start ≤ subject.length) :
    ((append first second).moves subject).Leads start finish ↔
      Relation.Comp (first.moves subject).Leads (second.moves subject).Leads start finish := by
  fun_induction append first second generalizing start with
  | case1 second => exact (leads_empty_comp within).symm
  | case2 first rest second ih =>
      rw [leads_concat, leads_concat, Relation.comp_assoc]
      exact exists_congr fun between => and_congr_right fun way =>
        ih (le_of_leads formed way within)
  | case3 letters => exact (comp_leads_empty formed _ within).symm
  | case4 letters more => exact leads_word_append formed letters more within
  | case5 letters more rest =>
      rw [leads_concat, leads_concat, ← Relation.comp_assoc]
      exact exists_congr fun between => and_congr_left fun _ =>
        leads_word_append formed letters more within
  | case6 first => exact (comp_leads_empty formed first within).symm
  | case7 first second => rfl

end Expression
end Pattern
end JavaTypes
