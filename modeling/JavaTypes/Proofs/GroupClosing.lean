import JavaTypes.Proofs.GroupReading
import Mathlib.Logic.Relation

/-!
# Where a group is closed

What stands in a group is read as it is by itself, up to the parenthesis that closes the group.
There it may end, and if the parenthesis stands without the group, reading gets stuck at it.
-/

namespace JavaTypes
namespace Pattern

/-- What the name of a side of a word begins with begins no number. -/
theorem letter_or_hyphen_apart {c : Char} (begins : (c.isAlpha || c == '-') = true) :
    Text.isBlank c = false ∧ c.isDigit = false ∧ (c == '#') = false := by
  have code : 65 ≤ c.toNat ∧ c.toNat ≤ 90 ∨ 97 ≤ c.toNat ∧ c.toNat ≤ 122 ∨ c.toNat = 45 := by
    rcases (Bool.or_eq_true _ _).mp begins with alpha | hyphen
    · rcases (Bool.or_eq_true _ _).mp alpha with upper | lower
      · exact .inl (of_decide_eq_true upper)
      · obtain ⟨least, most⟩ := (Bool.and_eq_true _ _).mp lower
        exact .inr (.inl ⟨of_decide_eq_true least, of_decide_eq_true most⟩)
    · exact .inr (.inr (congrArg Char.toNat (beq_iff_eq.mp hyphen)))
  refine ⟨?_, ?_, ?_⟩
  · simp [Text.isBlank, Text.blankRanges]
    omega
  · simp [Char.isDigit, UInt32.le_iff_toNat_le]
    omega
  · refine beq_eq_false_iff_ne.mpr ?_
    rintro rfl
    revert code
    decide

/-- Braces that count a repetition leave a side of a word without a name. -/
theorem Escape.boundary?_of_braced? {spaced : Bool} {text : List Char} {found : Count × List Char}
    (counted : Count.braced? spaced text = some found) :
    boundary? spaced ('{' :: text) = some (.place (.word .boundary), '{' :: text) := by
  obtain ⟨⟨least, rest⟩, number, -⟩ := Option.bind_eq_some_iff.mp counted
  rw [Count.number?] at number
  rw [boundary?]
  cases gap_eq : gap spaced text with
  | nil => simp [gap_eq, Count.digits, Text.readNat?] at number
  | cons c more =>
      cases begins : (c.isAlpha || c == '-') with
      | false => simp [begins]
      | true =>
          obtain ⟨dark, no_digit, no_comment⟩ := letter_or_hyphen_apart begins
          simp [gap_eq, dark, Count.digits, no_digit, no_comment, Text.readNat?] at number

namespace Reader

/-- Reading on by one part, with the text that is left. -/
inductive Step : Reader × List Char → Reader × List Char → Prop where
  | read {reader : Reader} {text rest : List Char} {c : Char} {after : Reader × List Char}
      (gap_eq : gap reader.spaced text = c :: rest) (step : reader.step? c rest = some after) :
      Step (reader, text) after

/-- Reading on by any number of parts. -/
abbrev Reads : Reader × List Char → Reader × List Char → Prop := Relation.ReflTransGen Step

/-- A part is read by what it uses up, but for a side of a word. -/
theorem Step.frame {reader next : Reader} {text rest : List Char}
    (step : Step (reader, text) (next, rest)) :
    ∃ used, used ≠ [] ∧ text = used ++ rest ∧ ∀ other, AgreesTo rest other →
      Escape.boundary? next.spaced other = some (.place (.word .boundary), other) →
      Step (reader, used ++ other) (next, other) := by
  cases step with
  | @read _ _ _ c _ gap_eq step =>
      obtain ⟨blanks, text_eq, gap_frame⟩ := gap_framed reader.spaced text rfl
      obtain ⟨used, rfl, frame⟩ := reader.step?_frame step
      rw [gap_eq] at text_eq gap_frame
      refine ⟨blanks ++ c :: used, by simp, by simp [text_eq], fun other agrees plain => ?_⟩
      refine .read ?_ (frame other agrees plain)
      have gap_other := gap_frame _ (.cons c (agrees.append used))
      simpa using gap_other

/-- Every part is at least one character. -/
theorem Step.length_lt {before after : Reader × List Char} (step : Step before after) :
    after.2.length < before.2.length := by
  obtain ⟨used, used_ne, text_eq, -⟩ := step.frame
  have := List.length_pos_of_ne_nil used_ne
  rw [text_eq, List.length_append]
  omega

theorem reads_of_run? {fuel : Nat} {reader final : Reader} {text : List Char}
    (run : run? fuel reader text = some final) :
    ∃ left, Reads (reader, text) (final, left) ∧ gap final.spaced left = [] := by
  induction fuel generalizing reader text with
  | zero => cases run
  | succ fuel ih =>
      rw [run?] at run
      split at run
      · next ends =>
          cases run
          exact ⟨text, .refl, ends⟩
      · next c rest gap_eq =>
          split at run
          · next next after step =>
              obtain ⟨left, reads, ends⟩ := ih run
              exact ⟨left, reads.head (.read gap_eq step), ends⟩
          · cases run

theorem run?_of_reads {before after : Reader × List Char} (reads : Reads before after)
    (ends : gap after.1.spaced after.2 = []) {fuel : Nat} (enough : before.2.length < fuel) :
    run? fuel before.1 before.2 = some after.1 := by
  induction reads using Relation.ReflTransGen.head_induction_on generalizing fuel with
  | refl =>
      obtain ⟨fuel, rfl⟩ := Nat.exists_eq_add_one.mpr (Nat.zero_lt_of_lt enough)
      rw [run?, ends]
  | head step _ ih =>
      obtain ⟨fuel, rfl⟩ := Nat.exists_eq_add_one.mpr (Nat.zero_lt_of_lt enough)
      have shorter := step.length_lt
      have run := ih (show _ < fuel by omega)
      obtain ⟨gap_eq, step⟩ := step
      rw [run?, gap_eq]
      simp only [step]
      exact run

theorem run?_eq_none_of_reads {before stuck : Reader × List Char} (reads : Reads before stuck)
    {c : Char} {rest : List Char} (gap_eq : gap stuck.1.spaced stuck.2 = c :: rest)
    (stop : stuck.1.step? c rest = none) (fuel : Nat) : run? fuel before.1 before.2 = none := by
  induction reads using Relation.ReflTransGen.head_induction_on generalizing fuel with
  | refl =>
      cases fuel with
      | zero => rfl
      | succ fuel =>
          rw [run?, gap_eq]
          simp only [stop]
  | head step _ ih =>
      cases fuel with
      | zero => rfl
      | succ fuel =>
          have run := ih fuel
          obtain ⟨gap_eq, step⟩ := step
          rw [run?, gap_eq]
          simp only [step]
          exact run

/-- The reader after the parenthesis that closes the group around all others. -/
def closing (reader : Reader) (base : OpenGroup) : Reader :=
  { reader with
    spaced := base.spaced
    level := base.before.add (.group base.kind reader.level.tree) }

/-- A part of what stands in a group is read as it is without the group, unless it is the
parenthesis that closes it. -/
theorem Step.cases_inside {reader next : Reader} {base : OpenGroup} {text rest : List Char}
    (step : Step (reader.inside base, text) (next, rest)) :
    (∃ inner, next = inner.inside base ∧ Step (reader, text) (inner, rest)) ∨
      reader.groups = [] ∧ gap reader.spaced text = ')' :: rest ∧ next = reader.closing base := by
  cases step with
  | @read _ _ after c _ gap_eq step =>
      by_cases closes : c = ')' ∧ reader.groups = []
      · obtain ⟨rfl, groups_eq⟩ := closes
        refine .inr ⟨groups_eq, ?_⟩
        rw [step?, close?, inside, groups_eq] at step
        obtain ⟨rfl, rfl⟩ := Prod.mk.inj (Option.some.inj step)
        refine ⟨gap_eq, ?_⟩
        simp [closing, groups_eq]
      · have open_still : c ≠ ')' ∨ reader.groups ≠ [] := not_and_or.mp closes
        obtain ⟨inner, rfl, inner_step⟩ := reader.step?_inside base open_still step
        exact .inl ⟨inner, rfl, .read gap_eq inner_step⟩

/-- Where reading goes on up to an ending, no name of a side of a word begins. -/
theorem Reads.boundary? {reader last : Reader} {text left : List Char}
    (reads : Reads (reader, text) (last, left)) (ends : IsEnding (gap last.spaced left)) :
    Escape.boundary? reader.spaced text = some (.place (.word .boundary), text) := by
  by_cases head_eq : text.head? = some '{'
  · obtain ⟨more, rfl⟩ := List.head?_eq_some_iff.mp head_eq
    have gap_eq (spaced : Bool) : gap spaced ('{' :: more) = '{' :: more := by
      cases spaced <;> rfl
    obtain same | ⟨_, step, -⟩ := reads.cases_head
    · obtain ⟨rfl, rfl⟩ := Prod.mk.inj same
      rw [gap_eq, isEnding_cons_iff] at ends
      cases ends
    · cases step with
      | read begins step =>
          rw [gap_eq] at begins
          obtain ⟨rfl, rfl⟩ := List.cons.inj begins
          obtain ⟨⟨count, after⟩, counted, -⟩ := Option.bind_eq_some_iff.mp step
          exact Escape.boundary?_of_braced? counted
  · rw [Escape.boundary?.eq_def]
    split
    · exact absurd rfl head_eq
    · rfl

/-- What is read within a group is read as it is without the group, up to the parenthesis that
closes the group; there the text may end. -/
theorem exists_closing {base : OpenGroup} {reader final : Reader} {text left : List Char}
    (reads : Reads (reader.inside base, text) (final, left)) (closed : final.groups = []) :
    ∃ used blanks after last, text = used ++ ')' :: after ∧ last.groups = [] ∧
      Reads (last.closing base, after) (final, left) ∧
      ∀ ending, IsEnding ending → Reads (reader, used ++ ending) (last, blanks ++ ending) ∧
        gap last.spaced (blanks ++ ending) = ending := by
  -- On the parts read in the group.  A part depends on what is read next only where a side of a word
  -- might have a name, and what is read next then says that it has none.
  generalize before_eq : (reader.inside base, text) = before at reads
  induction reads using Relation.ReflTransGen.head_induction_on generalizing reader text with
  | refl =>
      cases before_eq
      simp [inside] at closed
  | @head _ middle step reads ih =>
      subst before_eq
      obtain ⟨next, rest⟩ := middle
      obtain ⟨inner, rfl, inner_step⟩ | ⟨groups_eq, gap_eq, rfl⟩ := step.cases_inside
      · obtain ⟨used, blanks, after, last, rfl, groups_eq, reads_after, frame⟩ := ih rfl
        obtain ⟨first, -, rfl, step_frame⟩ := inner_step.frame
        refine ⟨first ++ used, blanks, after, last, (List.append_assoc ..).symm, groups_eq,
          reads_after, fun ending ends => ?_⟩
        obtain ⟨inner_reads, gap_ending⟩ := frame ending ends
        have plain := inner_reads.boundary? (by rwa [gap_ending])
        have step_other := step_frame (used ++ ending) (.append (.ending ends) used) plain
        rw [List.append_assoc]
        exact ⟨inner_reads.head step_other, gap_ending⟩
      · obtain ⟨blanks, text_eq, gap_frame⟩ := gap_framed reader.spaced text rfl
        rw [gap_eq] at text_eq gap_frame
        refine ⟨blanks, blanks, rest, reader, text_eq, groups_eq, reads, fun ending ends =>
          ⟨.refl, ?_⟩⟩
        simpa using gap_frame ending (.ending ends)

end Reader
end Pattern
end JavaTypes
