import JavaTypes.Pattern
import JavaTypes.Proofs.FirstGroup
import JavaTypes.Proofs.Matches

/-!
# Patterns and whole names

A pattern is read in a group between the ends of the text.  If it is an expression by itself, a name
matches exactly if the expression by itself matches all of it.  The only other texts that are
accepted close the group with a parenthesis that opens none in them.
-/

namespace JavaTypes
namespace NamePattern

open Pattern

section Standard

open Engine Engine.Standard

variable [Engine] [Engine.Standard]

/-- In a group between the ends of a text an expression occurs if it matches all of the text. -/
theorem occursIn_anchored (alone : Expr) (name : String) :
    occursIn (append start (append (group alone) finish)) name = true ↔
      Matches alone "" name "" := by
  rw [occursIn_iff]
  constructor
  · rintro ⟨before, part, after, rfl, matched⟩
    obtain ⟨left, rest, rfl, at_start, matched⟩ := (matches_append _ _ _ _ _).mp matched
    obtain ⟨middle, right, rfl, grouped, at_finish⟩ := (matches_append _ _ _ _ _).mp matched
    obtain ⟨rfl, rfl⟩ := (matches_start _ _ _).mp at_start
    obtain ⟨rfl, rfl⟩ := (matches_finish _ _ _).mp at_finish
    simpa using (matches_group _ _ _ _).mp grouped
  · intro matched
    refine ⟨"", name, "", by simp, (matches_append _ _ _ _ _).mpr ⟨"", name, by simp, ?_, ?_⟩⟩
    · exact (matches_start _ _ _).mpr ⟨rfl, rfl⟩
    · refine (matches_append _ _ _ _ _).mpr ⟨name, "", by simp, ?_, ?_⟩
      · simpa using (matches_group alone "" name "").mpr matched
      · exact (matches_finish _ _ _).mpr ⟨rfl, rfl⟩

/-- An accepted pattern that is an expression by itself matches exactly the names of which the
expression by itself matches all.  Any other closes, after an expression, the group around it. -/
theorem matchesAll_or_closes {source : String} {pattern : NamePattern}
    (accepted : ofText? source = some pattern) :
    (∃ alone, read? source = some alone ∧
      ∀ name, pattern.matchesName name = true ↔ Matches alone "" name "") ∨
    read? source = none ∧ ∃ inner after, source = inner ++ ")" ++ after ∧
      ∃ expr, read? inner = some expr := by
  obtain ⟨whole, fitting, rfl⟩ := Option.map_eq_some_iff.mp accepted
  have read : read? ("^(?:" ++ source ++ ")$") = some whole :=
    (Option.filter_eq_some_iff.mp fitting).1
  cases read_alone : read? source with
  | some alone =>
      left
      refine ⟨alone, rfl, fun name => ?_⟩
      rw [matchesName, read?_anchored read_alone read]
      exact occursIn_anchored alone name
  | none =>
      right
      rw [String.append_assoc] at read
      obtain ⟨inner, after, split, expr, read_inner⟩ := exists_group read
      obtain ⟨rfl, -⟩ | ⟨more, source_eq⟩ := closes_after_or_within split
      · rw [read_alone] at read_inner
        cases read_inner
      · exact ⟨rfl, inner, more, source_eq, expr, read_inner⟩

end Standard

/-- Expressions in the common notation mean what they should. -/
instance : Engine.Standard where
  Matches := Expression.Matches
  occursIn_iff := Expression.occursIn_iff_matches
  start := .anchor .textStart
  matches_start := Expression.matches_textStart
  finish := .anchor .textEnd
  matches_finish := Expression.matches_textEnd
  group := id
  matches_group _ _ _ _ := Iff.rfl
  append := Expression.append
  matches_append := Expression.matches_append
  read?_anchored {text expr whole} isExpr isWhole := by
    obtain ⟨alone, read_alone, expressed_alone⟩ := Option.bind_eq_some_iff.mp isExpr
    obtain ⟨tree, read, expressed⟩ := Option.bind_eq_some_iff.mp isWhole
    rw [Tree.eq_anchored read_alone read, Tree.expression?_anchored, expressed_alone] at expressed
    exact (Option.some.inj expressed).symm
  exists_group {rest whole} isWhole := by
    obtain ⟨tree, read, expressed⟩ := Option.bind_eq_some_iff.mp isWhole
    obtain ⟨inner, after, alone, split, read_alone, leading⟩ := Tree.exists_leading read
    have meant := leading.isSome_expression? (Option.isSome_of_eq_some expressed)
    obtain ⟨expr, expressed_alone⟩ := Option.isSome_iff_exists.mp meant
    exact ⟨inner, after, split, expr, Option.bind_eq_some_iff.mpr
      ⟨alone, read_alone, expressed_alone⟩⟩

/-- The alternatives `int` and `long` are a pattern by themselves. -/
theorem matchesAll_or_closes_of_intOrLong :
    ∃ pattern, ofText? "int|long" = some pattern ∧
      ∃ alone, Engine.read? "int|long" = some alone ∧
        ∀ name, pattern.matchesName name = true ↔ Engine.Standard.Matches alone "" name "" := by
  have reads : (ofText? "int|long").isSome = true := by decide +kernel
  have reads_alone : (Engine.read? "int|long").isSome = true := by decide +kernel
  obtain ⟨pattern, accepted⟩ := Option.isSome_iff_exists.mp reads
  refine ⟨pattern, accepted, (matchesAll_or_closes accepted).resolve_right fun closing => ?_⟩
  rw [closing.1] at reads_alone
  cases reads_alone

/-- A pattern that closes the group around it and opens another is accepted, though it is none by
itself, and then it matches more than whole names. -/
theorem accepted_by_closing :
    (∃ pattern, ofText? "a)|(b" = some pattern ∧ pattern.matchesName "ax" = true) ∧
      Engine.read? "a)|(b" = none := by
  have found : (ofText? "a)|(b").any (·.matchesName "ax") = true := by decide +kernel
  have none_alone : (Engine.read? "a)|(b").isNone = true := by decide +kernel
  obtain ⟨pattern, accepted, occurs⟩ := (Option.any_eq_true _ _).mp found
  exact ⟨⟨pattern, accepted, occurs⟩, Option.isNone_iff_eq_none.mp none_alone⟩

end NamePattern
end JavaTypes
