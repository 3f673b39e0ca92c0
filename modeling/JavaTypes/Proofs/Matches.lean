import JavaTypes.Proofs.Positions

/-!
# Which parts of a text match

An expression matches a part of a text if it leads from the beginning of the part to its end.
-/

namespace JavaTypes
namespace Pattern

theorem exists_append_of_le_length {text : String} {count : Nat} (bound : count ≤ text.length) :
    ∃ before after, text = before ++ after ∧ before.length = count := by
  refine ⟨String.ofList (text.toList.take count), String.ofList (text.toList.drop count), ?_, ?_⟩
  · apply String.toList_inj.mp
    simp
  · rw [String.length_ofList, List.length_take, String.length_toList]
    exact Nat.min_eq_left bound

theorem Subject.length_ofText (text : String) : (ofChars text.toList).length = text.length := by
  rw [length_ofChars, String.length_toList]

namespace Expression

/-- Whether an expression matches a part of a text, between what is before and after that part. -/
def Matches (expression : Expression) (before part after : String) : Prop :=
  (expression.moves (.ofChars (before ++ part ++ after).toList)).Leads before.length
    (before ++ part).length

/-- A search leads somewhere if a part matches. -/
theorem occursIn_iff_matches (expression : Expression) (text : String) :
    expression.occursIn text = true ↔ ∃ before part after, text = before ++ part ++ after ∧
      expression.Matches before part after := by
  have follows := Moves.follows_apply (expression.moves (.ofChars text.toList))
  rw [occursIn, bne_iff_ne]
  constructor
  · intro somewhere
    obtain ⟨finish, found⟩ := Nat.exists_testBit_of_ne_zero somewhere
    obtain ⟨start, member, way⟩ := (follows _ finish).mp found
    have start_le := (Subject.testBit_positions _ start).mp member
    have finish_le := le_of_leads (Subject.wellFormed_ofChars _) way start_le
    rw [Subject.length_ofText] at finish_le
    obtain ⟨upTo, after, rfl, rfl⟩ := exists_append_of_le_length finish_le
    obtain ⟨before, part, rfl, rfl⟩ := exists_append_of_le_length way.le
    exact ⟨before, part, after, rfl, way⟩
  · rintro ⟨before, part, after, rfl, way⟩ nowhere
    have member : (Subject.ofChars (before ++ part ++ after).toList).positions.testBit
        before.length = true := by
      rw [Subject.testBit_positions, Subject.length_ofText, String.length_append,
        String.length_append]
      omega
    have found := (follows _ _).mpr ⟨_, member, way⟩
    rw [nowhere, Nat.zero_testBit] at found
    cases found

theorem matches_textStart (before part after : String) :
    (anchor .textStart).Matches before part after ↔ before = "" ∧ part = "" := by
  have at_start (position : Nat) : Nat.testBit 1 position = true ↔ position = 0 :=
    Nat.testBit_one_eq_true_iff_self_eq_zero
  simp only [Matches, moves, Moves.Leads, Subject.satisfying, Subject.start, at_start,
    String.length_append, String.length_eq_zero_iff, Nat.left_eq_add]

theorem matches_textEnd (before part after : String) :
    (anchor .textEnd).Matches before part after ↔ part = "" ∧ after = "" := by
  have at_stop (subject : Subject) (position : Nat) :
      subject.stop.testBit position = true ↔ subject.length = position := by
    rw [Subject.stop, Nat.one_shiftLeft, Nat.testBit_two_pow, decide_eq_true_iff]
  simp only [Matches, moves, Moves.Leads, Subject.satisfying, at_stop, Subject.length_ofText,
    String.length_append, Nat.left_eq_add, String.length_eq_zero_iff, Nat.add_assoc,
    Nat.add_eq_left, Nat.add_eq_zero_iff]
  tauto

theorem matches_append (first second : Expression) (before part after : String) :
    (append first second).Matches before part after ↔ ∃ left right, part = left ++ right ∧
      first.Matches before left (right ++ after) ∧ second.Matches (before ++ left) right after := by
  have start_le : before.length ≤ (Subject.ofChars (before ++ part ++ after).toList).length := by
    rw [Subject.length_ofText, String.length_append, String.length_append]
    omega
  have joined (left right : String) : before ++ (left ++ right) = before ++ left ++ right :=
    String.append_assoc.symm
  rw [Matches, leads_append (Subject.wellFormed_ofChars _) first second start_le]
  constructor
  · rintro ⟨between, first_way, second_way⟩
    have first_le := first_way.le
    have second_le := second_way.le
    rw [String.length_append] at second_le
    have left_le : between - before.length ≤ part.length := by omega
    obtain ⟨left, right, rfl, left_length⟩ := exists_append_of_le_length left_le
    obtain rfl : (before ++ left).length = between := by
      rw [String.length_append]
      omega
    rw [joined] at first_way second_way
    refine ⟨left, right, rfl, ?_, second_way⟩
    rwa [Matches, ← String.append_assoc]
  · rintro ⟨left, right, rfl, first_way, second_way⟩
    rw [Matches, ← String.append_assoc] at first_way
    rw [joined]
    exact ⟨(before ++ left).length, first_way, second_way⟩

end Expression
end Pattern
end JavaTypes
