import JavaTypes.Pattern.Reader
import JavaTypes.Proofs.ClassReading
import Mathlib.Data.List.TakeWhile

/-!
# What reading groups depends on

A step of reading a pattern depends on what it uses up, and on the groups around it only for a
closing parenthesis.
-/

namespace JavaTypes
namespace Pattern

/-- A flag, or the sign after the last one, is used up. -/
theorem flags?_framedAt {text : List Char} (seen : List Char) (c : Char)
    (after : FramedAt (flags? (c :: seen)) text) :
    FramedAt (fun text => flags? seen (c :: text)) text := by
  by_cases sign : (c == ':' || c == ')') = true
  · cases dangling : seen.head? == some '-' with
    | true => exact .of_none (by simp only [flags?, if_pos sign, dangling, if_true])
    | false =>
        simp only [flags?, if_pos sign, dangling]
        exact Framed.pure _ text
  · by_cases twice : seen.contains c = true
    · exact .of_none (by simp only [flags?, if_neg sign, if_pos twice])
    · cases hyphen : c == '-' with
      | true =>
          simp only [flags?, if_neg sign, if_neg twice, hyphen, if_true]
          exact after
      | false =>
          simp only [flags?, if_neg sign, if_neg twice, hyphen]
          cases known : Mode.ofLetter? c with
          | none => exact .of_none rfl
          | some mode =>
              have changed := after.map fun (changes, opens) =>
                (({ mode, value := !seen.contains '-' } : ModeChange) :: changes, opens)
              convert changed using 2 with text
              cases flags? (c :: seen) text <;> rfl

/-- Flags are used up with the sign that ends them. -/
theorem flags?_framed (seen : List Char) (c : Char) :
    Framed fun text => flags? seen (c :: text) := by
  intro text
  induction text generalizing seen c with
  | nil => exact flags?_framedAt seen c (.of_none rfl)
  | cons d text ih => exact flags?_framedAt seen c (.of_cons (fun _ => rfl) (ih (c :: seen) d))

/-- The bracket after a name belongs to what is used up. -/
theorem groupName?_framed : Framed groupName? := by
  intro text name after read
  rw [groupName?] at read
  split at read
  · cases read
  · next sign rest after_eq =>
      have sign_eq : sign = '>' := by
        have found := List.head?_dropWhile_not (· != '>') text
        simpa [after_eq] using found
      subst sign_eq
      split at read
      · next named =>
          obtain ⟨rfl, rfl⟩ := Prod.mk.inj (Option.some.inj read)
          have inside : ∀ c ∈ text.takeWhile (· != '>'), (c != '>') = true :=
            fun _ => List.mem_takeWhile_imp (p := (· != '>'))
          refine ⟨text.takeWhile (· != '>') ++ ['>'], ?_, fun other _ => ?_⟩
          · rw [List.append_assoc, List.singleton_append, ← after_eq,
              List.takeWhile_append_dropWhile]
          · rw [List.append_assoc, groupName?, List.dropWhile_append_of_pos inside,
              List.takeWhile_append_of_pos inside]
            simp [named]
      · cases read

namespace Reader

variable (reader : Reader)

theorem enterNamed?_framed : Framed reader.enterNamed? :=
  groupName?_framed.bind fun name => .ofOption (reader.enterAs? name)

theorem changeFlags?_framed (c : Char) : Framed fun text => reader.changeFlags? (c :: text) := by
  have changed (flags : List ModeChange × Bool) : Framed fun rest =>
      (reader.change? flags.1 flags.2).map fun next => (next, rest) := .ofOption _
  exact (flags?_framed [] c).bind changed

theorem openAngled?_framed : Framed reader.openAngled? := by
  let behind? (text : List Char) : Option (Reader × List Char) :=
    if text.head? = some '!' then none else reader.enterNamed? text
  have behind : Framed behind? :=
    .branch (c := '!') (by decide) (fun _ => rfl) (fun _ head_ne => if_neg head_ne) .none
      reader.enterNamed?_framed
  refine .branch (c := '=') (by decide) (fun _ => rfl) (fun text head_ne => ?_) .none behind
  simp only [behind?]
  rw [openAngled?.eq_def]
  split
  · exact absurd rfl head_ne
  · rfl
  · next no_mark =>
      rw [if_neg]
      intro head_eq
      obtain ⟨rest, rfl⟩ := List.head?_eq_some_iff.mp head_eq
      exact no_mark rest rfl

theorem openMarked?_framed : Framed reader.openMarked? := by
  have optional : Framed fun text => reader.openMarked? ('P' :: text) := by
    refine .branch (c := '<') (by decide) (fun _ => rfl) (fun text head_ne => ?_)
      reader.enterNamed?_framed (reader.changeFlags?_framed 'P')
    rw [openMarked?.eq_def]
    split
    case h_5 => rfl
    case h_4 text_eq =>
      cases text_eq
      exact absurd rfl head_ne
    all_goals rename_i text_eq; cases text_eq
  intro text
  cases text with
  | nil => exact .of_none rfl
  | cons c text =>
      by_cases ahead : c = '='
      · subst ahead
        exact .of_none rfl
      by_cases not_ahead : c = '!'
      · subst not_ahead
        exact .of_none rfl
      by_cases angle : c = '<'
      · subst angle
        exact .of_cons (fun _ => rfl) (reader.openAngled?_framed text)
      by_cases letter : c = 'P'
      · subst letter
        exact .of_cons (fun _ => rfl) (optional text)
      refine .of_cons (fun text => ?_) (reader.changeFlags?_framed c text)
      simp [openMarked?, ahead, not_ahead, angle, letter]

theorem open?_framed : Framed reader.open? := by
  refine .branchAfterGap reader.spaced (c := '?') (by decide) (fun text rest gap_eq => ?_)
    (fun text head_ne => ?_) reader.openMarked?_framed (.pure reader.enterCounted)
  · rw [open?, gap_eq]
    rfl
  · rw [open?]
    split
    · next rest gap_eq => exact absurd (congrArg List.head? gap_eq) head_ne
    · rfl

theorem repeatSign?_framed (least : Nat) (most : Option Nat) :
    Framed (reader.repeatSign? least most) :=
  (Count.complete_framed least most).bind fun count => .ofOption (reader.repeat? count)

theorem repeatBraced?_framed : Framed reader.repeatBraced? :=
  (Count.braced?_framed reader.spaced).bind fun count => .ofOption (reader.repeat? count)

/-- A step is read by what it uses up, but for a side of a word. -/
theorem step?_frame {c : Char} {text rest : List Char} {next : Reader}
    (step : reader.step? c text = some (next, rest)) :
    ∃ used, text = used ++ rest ∧ ∀ other, AgreesTo rest other →
      Escape.boundary? next.spaced other = some (.place (.word .boundary), other) →
      reader.step? c (used ++ other) = some (next, other) := by
  have framed {read? : List Char → Option (Reader × List Char)} (each : Framed read?)
      (goes : reader.step? c = read?) :
      ∃ used, text = used ++ rest ∧ ∀ other, AgreesTo rest other →
        Escape.boundary? next.spaced other = some (.place (.word .boundary), other) →
        reader.step? c (used ++ other) = some (next, other) := by
    rw [goes] at step ⊢
    obtain ⟨used, text_eq, frame⟩ := each text step
    exact ⟨used, text_eq, fun other agrees _ => frame other agrees⟩
  have entered : Framed fun text =>
      if reader.groups.length < Tree.maxNesting then reader.open? text else none := by
    split
    · exact reader.open?_framed
    · exact .none
  have members := (Bracket.read?_framed reader.spaced).map fun members =>
    reader.add (.oneOf members)
  rw [step?.eq_def] at step
  split at step
  case h_1 => exact framed entered rfl
  case h_2 => exact framed (.ofOption reader.close?) rfl
  case h_4 => exact framed members rfl
  case h_5 | h_6 | h_7 => exact framed (reader.repeatSign?_framed _ _) rfl
  case h_8 => exact framed reader.repeatBraced?_framed rfl
  case h_9 =>
    obtain ⟨⟨escape, after⟩, read, next_eq⟩ := Option.map_eq_some_iff.mp step
    obtain ⟨rfl, rfl⟩ := Prod.mk.inj next_eq
    obtain ⟨used, text_eq, frame⟩ := Escape.read?_frame reader.spaced read
    refine ⟨used, text_eq, fun other agrees plain => ?_⟩
    exact Option.map_eq_some_iff.mpr ⟨_, frame other agrees fun _ => plain, rfl⟩
  case h_13 =>
    refine framed (.pure (reader.add (.letter { char := c }))) ?_
    funext text
    rw [step?] <;> assumption
  all_goals exact framed (.pure _) rfl

/-- The reader within one more group, around all others. -/
def inside (reader : Reader) (base : OpenGroup) : Reader :=
  { reader with groups := reader.groups ++ [base] }

section Inside

variable (base : OpenGroup)

@[simp] theorem inside_spaced : (reader.inside base).spaced = reader.spaced := rfl

@[simp] theorem inside_level : (reader.inside base).level = reader.level := rfl

theorem enterAs?_inside (name : List Char) :
    (reader.inside base).enterAs? name = (reader.enterAs? name).map (inside · base) := by
  cases known : reader.names.contains name with
  | true => simp only [enterAs?, inside, known, if_true, Option.map_none]
  | false => simp only [enterAs?, inside, known]; rfl

theorem enterNamed?_inside (text : List Char) :
    (reader.inside base).enterNamed? text =
      (reader.enterNamed? text).map fun (next, rest) => (next.inside base, rest) := by
  rw [enterNamed?, enterNamed?]
  cases groupName? text with
  | none => rfl
  | some found =>
      simp only [bind, Option.bind_some, enterAs?_inside, Option.map_map]
      rfl

theorem change?_inside (changes : List ModeChange) (opens : Bool) :
    (reader.inside base).change? changes opens =
      (reader.change? changes opens).map (inside · base) := by
  cases opens with
  | true => rfl
  | false => cases changes <;> rfl

theorem changeFlags?_inside (text : List Char) :
    (reader.inside base).changeFlags? text =
      (reader.changeFlags? text).map fun (next, rest) => (next.inside base, rest) := by
  rw [changeFlags?, changeFlags?]
  cases flags? [] text with
  | none => rfl
  | some found =>
      obtain ⟨⟨changes, opens⟩, rest⟩ := found
      simp only [bind, Option.bind_some, change?_inside, Option.map_map]
      rfl

theorem openAngled?_inside (text : List Char) :
    (reader.inside base).openAngled? text =
      (reader.openAngled? text).map fun (next, rest) => (next.inside base, rest) := by
  rw [openAngled?.eq_def, openAngled?.eq_def reader]
  split
  · rfl
  · rfl
  · exact reader.enterNamed?_inside base _

theorem openMarked?_inside (text : List Char) :
    (reader.inside base).openMarked? text =
      (reader.openMarked? text).map fun (next, rest) => (next.inside base, rest) := by
  rw [openMarked?.eq_def, openMarked?.eq_def reader]
  split
  · rfl
  · rfl
  · exact reader.openAngled?_inside base _
  · exact reader.enterNamed?_inside base _
  · exact reader.changeFlags?_inside base _

theorem open?_inside (text : List Char) :
    (reader.inside base).open? text =
      (reader.open? text).map fun (next, rest) => (next.inside base, rest) := by
  rw [open?, open?, inside_spaced]
  split
  · exact reader.openMarked?_inside base _
  · rfl

theorem close?_inside (open_still : reader.groups ≠ []) :
    (reader.inside base).close? = reader.close?.map (inside · base) := by
  obtain ⟨group, outer, groups_eq⟩ := List.exists_cons_of_ne_nil open_still
  simp [close?, inside, groups_eq]

theorem repeat?_inside (count : Count) :
    (reader.inside base).repeat? count = (reader.repeat? count).map (inside · base) := by
  rw [repeat?, repeat?, inside_level]
  split
  · rfl
  · split <;> rfl

theorem repeatSign?_inside (least : Nat) (most : Option Nat) (text : List Char) :
    (reader.inside base).repeatSign? least most text =
      (reader.repeatSign? least most text).map fun (next, rest) => (next.inside base, rest) := by
  simp only [repeatSign?, repeat?_inside, Option.map_map]
  rfl

theorem repeatBraced?_inside (text : List Char) :
    (reader.inside base).repeatBraced? text =
      (reader.repeatBraced? text).map fun (next, rest) => (next.inside base, rest) := by
  rw [repeatBraced?, repeatBraced?, inside_spaced]
  cases Count.braced? reader.spaced text with
  | none => rfl
  | some found =>
      simp only [bind, Option.bind_some, repeat?_inside, Option.map_map]
      rfl

/-- A step within a group is the step without the group, but for the parenthesis that closes it. -/
theorem step?_inside {c : Char} {text rest : List Char} {next : Reader}
    (open_still : c ≠ ')' ∨ reader.groups ≠ [])
    (step : (reader.inside base).step? c text = some (next, rest)) :
    ∃ inner, next = inner.inside base ∧ reader.step? c text = some (inner, rest) := by
  have same (goes : (reader.inside base).step? c text =
      (reader.step? c text).map fun (next, rest) => (next.inside base, rest)) :
      ∃ inner, next = inner.inside base ∧ reader.step? c text = some (inner, rest) := by
    obtain ⟨⟨inner, after⟩, step_eq, next_eq⟩ := Option.map_eq_some_iff.mp (goes.symm.trans step)
    obtain ⟨rfl, rfl⟩ := Prod.mk.inj next_eq
    exact ⟨inner, rfl, step_eq⟩
  rw [step?.eq_def] at step
  split at step
  case h_1 =>
    split at step
    · next shallow =>
        have shallower : reader.groups.length < Tree.maxNesting := by
          simp only [inside, List.length_append] at shallow
          omega
        refine same ?_
        rw [step?, step?, if_pos shallow, if_pos shallower]
        exact reader.open?_inside base text
    · cases step
  case h_2 =>
    have groups_ne : reader.groups ≠ [] := open_still.resolve_left fun ne => ne rfl
    refine same ?_
    rw [step?, step?, reader.close?_inside base groups_ne, Option.map_map, Option.map_map]
    rfl
  case h_4 =>
    refine same ?_
    rw [step?, step?, Option.map_map]
    rfl
  case h_5 | h_6 | h_7 => exact same (reader.repeatSign?_inside base _ _ text)
  case h_8 => exact same (reader.repeatBraced?_inside base text)
  case h_9 =>
    refine same ?_
    rw [step?, step?, Option.map_map]
    rfl
  case h_13 =>
    refine same ?_
    rw [step?, step?] <;> first | assumption | rfl
  all_goals exact same rfl

end Inside

end Reader
end Pattern
end JavaTypes
