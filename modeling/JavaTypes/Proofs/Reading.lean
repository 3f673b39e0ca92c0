import JavaTypes.Pattern.Reader
import Mathlib.Data.List.Basic

/-!
# What reading depends on

What is read at the beginning of a text depends on no more than is used up.  The rest may go on in
another way from any closing parenthesis on: there it may also end, since nothing that may be read
on a level begins with one.  Only a side of a word looks further, at what braces after it say.
-/

namespace JavaTypes
namespace Pattern

/-- Whether a text begins with a closing parenthesis, if at all. -/
def IsEnding (text : List Char) : Prop := ∀ c ∈ text.head?, c = ')'

/-- Whether two texts agree up to a closing parenthesis in the first, from where on the second goes
on with one, or ends. -/
inductive AgreesTo : List Char → List Char → Prop where
  | ending {text other : List Char} (ends : IsEnding other) : AgreesTo (')' :: text) other
  | cons (c : Char) {text other : List Char} (agrees : AgreesTo text other) :
      AgreesTo (c :: text) (c :: other)

/-- Whether what is read of a text depends only on what is used up, whatever follows. -/
def FramedAt {α : Type} (read? : List Char → Option (α × List Char)) (text : List Char) : Prop :=
  ∀ ⦃value rest⦄, read? text = some (value, rest) →
    ∃ used, text = used ++ rest ∧
      ∀ other, AgreesTo rest other → read? (used ++ other) = some (value, other)

/-- Whether what is read of any text depends only on what is used up. -/
def Framed {α : Type} (read? : List Char → Option (α × List Char)) : Prop :=
  ∀ text, FramedAt read? text

theorem isEnding_cons_iff {c : Char} {text : List Char} : IsEnding (c :: text) ↔ c = ')' := by
  simp [IsEnding]

namespace AgreesTo

variable {text other : List Char} {c : Char}

theorem append (agrees : AgreesTo text other) (used : List Char) :
    AgreesTo (used ++ text) (used ++ other) := by
  induction used with
  | nil => exact agrees
  | cons c used ih => exact .cons c ih

/-- Up to the closing parenthesis the texts are the same. -/
theorem cases_of_ne (agrees : AgreesTo (c :: text) other) (ne : c ≠ ')') :
    ∃ more, other = c :: more ∧ AgreesTo text more := by
  cases agrees with
  | ending => exact absurd rfl ne
  | cons _ agrees => exact ⟨_, rfl, agrees⟩

/-- What the second text begins with, if not with a closing parenthesis, the first begins with. -/
theorem cases_of_other_ne (agrees : AgreesTo text (c :: other)) (ne : c ≠ ')') :
    ∃ more, text = c :: more ∧ AgreesTo more other := by
  cases agrees with
  | ending ends => exact absurd (isEnding_cons_iff.mp ends) ne
  | cons _ agrees => exact ⟨_, rfl, agrees⟩

theorem head?_ne (agrees : AgreesTo text other) (ne : c ≠ ')') (head_ne : text.head? ≠ some c) :
    other.head? ≠ some c := by
  intro head_eq
  obtain ⟨more, rfl⟩ := List.head?_eq_some_iff.mp head_eq
  obtain ⟨_, rfl, -⟩ := agrees.cases_of_other_ne ne
  exact head_ne rfl

/-- What the second text begins with before a closing parenthesis, the first begins with. -/
theorem exists_append {used : List Char}
    (agrees : AgreesTo text (used ++ other)) (open_still : ')' ∉ used) :
    ∃ more, text = used ++ more ∧ AgreesTo more other := by
  induction used generalizing text with
  | nil => exact ⟨text, rfl, agrees⟩
  | cons c used ih =>
      obtain ⟨ne, later⟩ := not_or.mp (mt List.mem_cons.mpr open_still)
      obtain ⟨more, rfl, agrees_after⟩ := agrees.cases_of_other_ne (Ne.symm ne)
      obtain ⟨rest, rfl, agrees_rest⟩ := ih agrees_after later
      exact ⟨rest, rfl, agrees_rest⟩

theorem ne_nil (agrees : AgreesTo text other) : text ≠ [] := by
  cases agrees <;> exact List.cons_ne_nil _ _

end AgreesTo

section Frames

variable {α β : Type} {read? : List Char → Option (α × List Char)} {text : List Char}

namespace FramedAt

theorem of_none (nothing : read? text = none) : FramedAt read? text := by
  intro value rest read
  cases nothing.symm.trans read

theorem of_nil (ends : ∀ value rest, read? [] = some (value, rest) → rest = []) :
    FramedAt read? [] := by
  intro value rest read
  obtain rfl := ends value rest read
  exact ⟨[], rfl, fun other agrees => absurd rfl agrees.ne_nil⟩

/-- Nothing is used up. -/
theorem of_stop {value : α}
    (stops : ∀ other, AgreesTo text other → read? other = some (value, other))
    (stop : read? text = some (value, text)) : FramedAt read? text := by
  intro found rest read
  obtain ⟨rfl, rfl⟩ := Prod.mk.inj (Option.some.inj (stop.symm.trans read))
  exact ⟨[], rfl, stops⟩

/-- Nothing is used up where a character stands, and neither at a closing parenthesis nor at the end. -/
theorem of_halt {value : α} {c : Char} (halts : ∀ text, read? (c :: text) = some (value, c :: text))
    (closes : ∀ text, read? (')' :: text) = some (value, ')' :: text))
    (ends : read? [] = some (value, [])) (text : List Char) : FramedAt read? (c :: text) := by
  refine .of_stop (fun other agrees => ?_) (halts text)
  cases agrees with
  | cons _ agrees => exact halts _
  | ending ending =>
      cases other with
      | nil => exact ends
      | cons d more =>
          obtain rfl := isEnding_cons_iff.mp ending
          exact closes more

/-- One character is used up. -/
theorem of_cons {next? : List Char → Option (α × List Char)} {c : Char}
    (goes : ∀ text, read? (c :: text) = next? text) (framed : FramedAt next? text) :
    FramedAt read? (c :: text) := by
  intro value rest read
  obtain ⟨used, rfl, frame⟩ := framed ((goes text).symm.trans read)
  exact ⟨c :: used, rfl, fun other agrees => (goes _).trans (frame other agrees)⟩

theorem bind {next? : α → List Char → Option (β × List Char)} (framed : FramedAt read? text)
    (each : ∀ value, Framed (next? value)) :
    FramedAt (fun text => (read? text).bind fun (value, rest) => next? value rest) text := by
  intro last rest read
  obtain ⟨⟨value, between⟩, read_first, read_next⟩ := Option.bind_eq_some_iff.mp read
  obtain ⟨used, rfl, first_frame⟩ := framed read_first
  obtain ⟨more, rfl, next_frame⟩ := each value between read_next
  refine ⟨used ++ more, (List.append_assoc ..).symm, fun other agrees => ?_⟩
  simp only [List.append_assoc, first_frame _ (agrees.append more), Option.bind_some,
    next_frame other agrees]

theorem map (framed : FramedAt read? text) (f : α → β) :
    FramedAt (fun text => (read? text).map fun (value, rest) => (f value, rest)) text := by
  intro value rest read
  obtain ⟨⟨value, between⟩, read_first, ⟨⟩⟩ := Option.map_eq_some_iff.mp read
  obtain ⟨used, rfl, frame⟩ := framed read_first
  exact ⟨used, rfl, fun other agrees => by simp only [frame other agrees, Option.map_some]⟩

end FramedAt

namespace Framed

theorem pure (value : α) : Framed fun text => some (value, text) :=
  fun _ => .of_stop (fun _ _ => rfl) rfl

theorem none : Framed fun _ => (none : Option (α × List Char)) := fun _ => .of_none rfl

theorem bind {next? : α → List Char → Option (β × List Char)} (framed : Framed read?)
    (each : ∀ value, Framed (next? value)) :
    Framed fun text => (read? text).bind fun (value, rest) => next? value rest :=
  fun text => (framed text).bind each

theorem map (framed : Framed read?) (f : α → β) :
    Framed fun text => (read? text).map fun (value, rest) => (f value, rest) :=
  fun text => (framed text).map f

theorem ofOption (found : Option α) : Framed fun rest =>
    found.map fun value => (value, rest) := by
  cases found with
  | none => exact .none
  | some value => exact .pure value

/-- Where one character, which closes no group, decides what is read. -/
theorem branch {c : Char} {taken? otherwise? : List Char → Option (α × List Char)} (ne : c ≠ ')')
    (on_c : ∀ rest, read? (c :: rest) = taken? rest)
    (off_c : ∀ text, text.head? ≠ some c → read? text = otherwise? text)
    (taken : Framed taken?) (otherwise : Framed otherwise?) : Framed read? := by
  intro text
  by_cases head_eq : text.head? = some c
  · obtain ⟨rest, rfl⟩ := List.head?_eq_some_iff.mp head_eq
    exact .of_cons on_c (taken rest)
  · intro value rest read
    rw [off_c text head_eq] at read
    obtain ⟨used, rfl, frame⟩ := otherwise text read
    refine ⟨used, rfl, fun other agrees => ?_⟩
    rw [off_c, frame other agrees]
    cases used with
    | nil => exact agrees.head?_ne ne head_eq
    | cons d used => exact head_eq

end Framed

end Frames

/-- What is skipped goes up to a character that is not skipped. -/
theorem skipBlanks_framed (inComment : Bool) :
    Framed fun text => some ((), skipBlanks inComment text) := by
  intro text
  induction text generalizing inComment with
  | nil => exact .of_nil fun _ _ read => by cases read; rfl
  | cons c text ih =>
      cases inComment with
      | true => exact .of_cons (fun _ => rfl) (ih (c != '\n'))
      | false =>
          cases hash : c == '#' with
          | true => exact .of_cons (fun _ => by simp [skipBlanks, hash]) (ih true)
          | false =>
              cases blank : Text.isBlank c with
              | true => exact .of_cons (fun _ => by simp [skipBlanks, hash, blank]) (ih false)
              | false =>
                  exact .of_halt (fun _ => by simp [skipBlanks, hash, blank]) (fun _ => rfl) rfl
                    text

theorem gap_framed (spaced : Bool) : Framed fun text => some ((), gap spaced text) := by
  cases spaced with
  | false => exact .pure ()
  | true => exact skipBlanks_framed false

theorem Framed.afterGap {α : Type} {read? : List Char → Option (α × List Char)}
    (framed : Framed read?) (spaced : Bool) : Framed fun text => read? (gap spaced text) :=
  (gap_framed spaced).bind fun _ => framed

/-- Where the first character that is not skipped decides what is read. -/
theorem Framed.branchAfterGap {α : Type}
    {read? taken? otherwise? : List Char → Option (α × List Char)} (spaced : Bool) {c : Char}
    (ne : c ≠ ')')
    (on_c : ∀ text rest, gap spaced text = c :: rest → read? text = taken? rest)
    (off_c : ∀ text, (gap spaced text).head? ≠ some c → read? text = otherwise? (gap spaced text))
    (taken : Framed taken?) (otherwise : Framed otherwise?) : Framed read? := by
  let decide? (text : List Char) : Option (α × List Char) :=
    if text.head? = some c then taken? text.tail else otherwise? text
  have decided : Framed decide? :=
    branch ne (fun _ => if_pos rfl) (fun _ head_ne => if_neg head_ne) taken otherwise
  have read_eq : read? = fun text => decide? (gap spaced text) := by
    funext text
    by_cases head_eq : (gap spaced text).head? = some c
    · obtain ⟨rest, gap_eq⟩ := List.head?_eq_some_iff.mp head_eq
      rw [on_c text rest gap_eq, gap_eq]
      exact (if_pos rfl).symm
    · rw [off_c text head_eq]
      exact (if_neg head_eq).symm
  rw [read_eq]
  exact decided.afterGap spaced

namespace Escape

variable (spaced : Bool)

theorem braced?_framed (inComment : Bool) : Framed (braced? spaced inComment) := by
  intro text
  induction text generalizing inComment with
  | nil => exact .of_none rfl
  | cons c text ih =>
      cases inComment with
      | true => exact .of_cons (fun _ => rfl) (ih (c != '\n'))
      | false =>
          cases hash : spaced && c == '#' with
          | true => exact .of_cons (fun _ => by simp [braced?, hash]) (ih true)
          | false =>
              cases blank : spaced && Text.isBlank c with
              | true => exact .of_cons (fun _ => by simp [braced?, hash, blank]) (ih false)
              | false =>
                  cases brace : c == '}' with
                  | true =>
                      exact .of_cons (fun _ => by simp [braced?, hash, blank, brace])
                        (Framed.pure [] text)
                  | false =>
                      refine .of_cons (fun text => ?_) ((ih false).map (c :: ·))
                      simp only [braced?, hash, blank, brace]
                      cases braced? spaced false text <;> rfl

theorem hexDigits?_framed (count : Nat) : Framed (hexDigits? spaced count) := by
  induction count with
  | zero => exact .pure []
  | succ count ih =>
      intro text
      cases text with
      | nil => exact .of_none rfl
      | cons c text =>
          cases digit : Text.isDigitOf 16 c with
          | false =>
              refine .of_none ?_
              simp [hexDigits?, digit]
          | true =>
              refine .of_cons (fun text => ?_) (((ih.afterGap spaced).map (c :: ·)) text)
              simp only [hexDigits?, digit, if_true]
              cases hexDigits? spaced count (gap spaced text) <;> rfl

theorem code?_framed (width : Nat) : Framed (code? spaced width) := by
  have coded (isByte : Bool) (read? : List Char → Option (List Char × List Char))
      (framed : Framed read?) : Framed fun text => (read? text).bind fun found =>
        (charOfCode? found.1).bind fun c =>
          some (Escape.letter { char := c, isByte }, found.2) := by
    have each (digits : List Char) : Framed fun after =>
        (charOfCode? digits).bind fun c => some (Escape.letter { char := c, isByte }, after) := by
      cases charOfCode? digits with
      | none => exact .none
      | some c => exact .pure _
    exact framed.bind each
  refine .branchAfterGap spaced (c := '{') (by decide) (fun text rest gap_eq => ?_)
    (fun text head_ne => ?_) (coded false (braced? spaced false) (braced?_framed spaced false))
    (coded (width == 2) (hexDigits? spaced width) (hexDigits?_framed spaced width))
  · rw [code?, gap_eq]
    rfl
  · rw [code?]
    split
    · next rest gap_eq => exact absurd (congrArg List.head? gap_eq) head_ne
    · rfl

theorem property?_framed (negated : Bool) : Framed (property? spaced negated) := by
  let letter? : List Char → Option (Escape × List Char)
    | '\\' :: _ | [] => none
    | c :: after => some (.oneOf (.property (.alone [c]) negated), after)
  have letter_framed : Framed letter? := by
    intro text
    cases text with
    | nil => exact .of_none rfl
    | cons c text =>
        by_cases backslash : c = '\\'
        · subst backslash
          exact .of_none rfl
        · refine .of_cons (fun _ => ?_) (Framed.pure (.oneOf (.property (.alone [c]) negated)) text)
          simp only [letter?]
  refine .branchAfterGap spaced (c := '{') (by decide) (fun text rest gap_eq => ?_)
    (fun text head_ne => ?_)
    ((braced?_framed spaced false).map fun name => .oneOf (named negated name)) letter_framed
  · rw [property?, gap_eq]
    exact Option.map_eq_bind.symm
  · rw [property?]
    split
    · next rest gap_eq => exact absurd (congrArg List.head? gap_eq) head_ne
    · next gap_eq =>
        rw [gap_eq]
        rfl
    · next gap_eq => rw [gap_eq]
    · next gap_eq => simp [gap_eq, letter?]

/-- A name in braces may be read from where there is something to read. -/
theorem braced?_gap (text : List Char) :
    braced? spaced false (gap spaced text) = braced? spaced false text := by
  have skipped (inComment : Bool) :
      braced? true false (skipBlanks inComment text) = braced? true inComment text := by
    induction text generalizing inComment with
    | nil => rfl
    | cons c text ih =>
        cases inComment with
        | true => exact ih (c != '\n')
        | false =>
            cases hash : c == '#' with
            | true => simpa [skipBlanks, braced?, hash] using ih true
            | false =>
                cases blank : Text.isBlank c with
                | true => simpa [skipBlanks, braced?, hash, blank] using ih false
                | false => simp [skipBlanks, hash, blank]
  cases spaced with
  | false => rfl
  | true => exact skipped false

/-- A side of a word without a name is read by its letter alone, unless the braces that follow name
one after all. -/
theorem boundary?_frame {text rest : List Char} {escape : Escape}
    (read : boundary? spaced text = some (escape, rest)) :
    ∃ used, text = used ++ rest ∧ ∀ other, AgreesTo rest other →
      (escape = .place (.word .boundary) →
        boundary? spaced other = some (.place (.word .boundary), other)) →
      boundary? spaced (used ++ other) = some (escape, other) := by
  have unnamed (stop : some (Escape.place (.word .boundary), text) = some (escape, rest)) :
      ∃ used, text = used ++ rest ∧ ∀ other, AgreesTo rest other →
        (escape = .place (.word .boundary) →
          boundary? spaced other = some (.place (.word .boundary), other)) →
        boundary? spaced (used ++ other) = some (escape, other) := by
    cases stop
    exact ⟨[], rfl, fun other _ plain => plain rfl⟩
  rw [boundary?.eq_def] at read
  split at read
  · next inner =>
      obtain ⟨blanks, text_eq, gap_frame⟩ := gap_framed spaced inner rfl
      split at read
      · cases read
      · next c more gap_eq =>
          split at read
          · next names =>
              obtain ⟨⟨name, after⟩, read_name, read_edge⟩ := Option.bind_eq_some_iff.mp read
              obtain ⟨edge, edge_eq, ⟨⟩⟩ := Option.bind_eq_some_iff.mp read_edge
              rw [← braced?_gap] at read_name
              obtain ⟨used, gap_text, frame⟩ := braced?_framed spaced false _ read_name
              refine ⟨'{' :: (blanks ++ used), ?_, fun other agrees _ => ?_⟩
              · rw [gap_text] at text_eq
                rw [text_eq, List.cons_append, List.append_assoc]
              · have agrees_gap : AgreesTo (gap spaced inner) (used ++ other) :=
                  gap_text ▸ agrees.append used
                have gap_other : gap spaced (blanks ++ (used ++ other)) = used ++ other := by
                  simpa using gap_frame _ agrees_gap
                have ne : c ≠ ')' := by
                  rintro rfl
                  cases names
                have name_other : braced? spaced false (blanks ++ (used ++ other)) =
                    some (name, other) := by rw [← braced?_gap, gap_other, frame other agrees]
                rw [gap_eq] at agrees_gap
                obtain ⟨others, begins, -⟩ := agrees_gap.cases_of_ne ne
                rw [List.cons_append, List.append_assoc, boundary?, name_other, gap_other, begins]
                simp only [names, if_true, bind, Option.bind_some, edge_eq]
          · exact unnamed read
  · exact unnamed read

/-- An escape is read by what it uses up, but for a side of a word. -/
theorem read?_frame {text rest : List Char} {escape : Escape}
    (read : read? spaced text = some (escape, rest)) :
    ∃ used, text = used ++ rest ∧ ∀ other, AgreesTo rest other →
      (escape = .place (.word .boundary) →
        boundary? spaced other = some (.place (.word .boundary), other)) →
      read? spaced (used ++ other) = some (escape, other) := by
  have framed {c : Char} {next? : List Char → Option (Escape × List Char)} {after : List Char}
      (each : Framed next?) (goes : ∀ text, read? spaced (c :: text) = next? text)
      (read : read? spaced (c :: after) = some (escape, rest)) :
      ∃ used, c :: after = used ++ rest ∧ ∀ other, AgreesTo rest other →
        (escape = .place (.word .boundary) →
          boundary? spaced other = some (.place (.word .boundary), other)) →
        read? spaced (used ++ other) = some (escape, other) := by
    obtain ⟨used, text_eq, frame⟩ := FramedAt.of_cons goes (each after) read
    exact ⟨used, text_eq, fun other agrees _ => frame other agrees⟩
  have itself (c : Char) : Framed fun text =>
      if standsForItself c then some (Escape.letter { char := c }, text) else none := by
    split
    · exact .pure _
    · exact .none
  have read_eq := read
  rw [read?.eq_def] at read
  split at read
  case h_1 => cases read
  case h_2 => exact framed (code?_framed spaced 2) (fun _ => rfl) read_eq
  case h_3 => exact framed (code?_framed spaced 4) (fun _ => rfl) read_eq
  case h_4 => exact framed (code?_framed spaced 8) (fun _ => rfl) read_eq
  case h_5 => exact framed (property?_framed spaced false) (fun _ => rfl) read_eq
  case h_6 => exact framed (property?_framed spaced true) (fun _ => rfl) read_eq
  case h_21 after =>
    obtain ⟨used, rfl, frame⟩ := boundary?_frame spaced read
    exact ⟨'b' :: used, rfl, frame⟩
  case h_25 => exact framed (itself _) (fun text => by rw [read?] <;> assumption) read_eq
  all_goals exact framed (Framed.pure _) (fun _ => rfl) read_eq

end Escape

/-- What is skipped from the beginning does not depend on what follows, if a closing parenthesis is
not skipped. -/
theorem dropWhile_framed (skips : Char → Bool) (kept : skips ')' = false) :
    Framed fun text => some ((), text.dropWhile skips) := by
  intro text
  induction text with
  | nil => exact .of_nil fun _ _ read => by cases read; rfl
  | cons c text ih =>
      cases skip : skips c with
      | true => exact .of_cons (fun _ => by rw [List.dropWhile_cons_of_pos skip]) ih
      | false =>
          exact .of_halt (fun _ => by rw [List.dropWhile_cons_of_neg (by simp [skip])])
            (fun _ => by rw [List.dropWhile_cons_of_neg (by simp [kept])]) rfl text

namespace Count

variable (spaced : Bool)

theorem digits_framed (inComment : Bool) :
    Framed fun text => some (digits spaced inComment text) := by
  intro text
  induction text generalizing inComment with
  | nil => exact .of_nil fun _ _ read => by cases read; rfl
  | cons c text ih =>
      cases inComment with
      | true => exact .of_cons (fun _ => rfl) (ih (c != '\n'))
      | false =>
          cases hash : spaced && c == '#' with
          | true => exact .of_cons (fun _ => by simp [digits, hash]) (ih true)
          | false =>
              cases blank : spaced && Text.isBlank c with
              | true => exact .of_cons (fun _ => by simp [digits, hash, blank]) (ih false)
              | false =>
                  cases digit : c.isDigit with
                  | true =>
                      exact .of_cons (fun _ => by simp [digits, hash, blank, digit])
                        ((ih false).map (c :: ·))
                  | false =>
                      exact .of_halt (fun _ => by simp [digits, hash, blank, digit])
                        (fun _ => by simp [digits, Text.isBlank, Text.blankRanges]) rfl text

theorem number?_framed : Framed (number? spaced) := by
  have blanks := dropWhile_framed Text.isBlank (by decide)
  have value (digits : List Char) : Framed fun after =>
      (Text.readNat? 10 digits).bind fun value =>
        if value < 0x100000000 then some (value, after.dropWhile Text.isBlank) else none := by
    cases Text.readNat? 10 digits with
    | none => exact .none
    | some value =>
        by_cases small : value < 0x100000000
        · simp only [Option.bind_some, if_pos small]
          exact blanks.map fun _ => value
        · simp only [Option.bind_some, if_neg small]
          exact .none
  exact (blanks.bind fun _ => (digits_framed spaced false).bind value).afterGap spaced

theorem complete_framed (least : Nat) (most : Option Nat) :
    Framed fun text => some (complete least most text) := by
  have counted (short : Bool) : Framed fun text => some (Count.mk least most short, text) :=
    .pure _
  refine .branch (c := '?') (by decide) (fun _ => rfl) (fun text head_ne => ?_) (counted true)
    (counted false)
  rw [complete.eq_def]
  split
  · exact absurd rfl head_ne
  · rfl

theorem completed_framed (least : Nat) (most : Option Nat) : Framed fun after =>
    some (complete least most (gap spaced after)) :=
  (complete_framed least most).afterGap spaced

theorem closed?_framed (least : Nat) (most : Option Nat) :
    Framed (closed? spaced least most) := by
  refine .branch (c := '}') (by decide) (fun _ => rfl) (fun text head_ne => ?_)
    (completed_framed spaced least most) .none
  rw [closed?.eq_def]
  split
  · exact absurd rfl head_ne
  · rfl

theorem bounded?_framed (least : Nat) : Framed (bounded? spaced least) := by
  have bounded (most : Nat) : Framed fun rest =>
      if least ≤ most then closed? spaced least (some most) rest else none := by
    split
    · exact closed?_framed spaced least (some most)
    · exact .none
  refine .branchAfterGap spaced (c := '}') (by decide) (fun text rest gap_eq => ?_)
    (fun text head_ne => ?_) (completed_framed spaced least none)
    ((number?_framed spaced).bind bounded)
  · rw [bounded?, gap_eq]
    rfl
  · rw [bounded?]
    split
    · next rest gap_eq => exact absurd (congrArg List.head? gap_eq) head_ne
    · rfl

theorem counted?_framed (least : Nat) : Framed (counted? spaced least) := by
  refine .branch (c := ',') (by decide) (fun _ => rfl) (fun text head_ne => ?_)
    (bounded?_framed spaced least) (closed?_framed spaced least (some least))
  rw [counted?.eq_def]
  split
  · exact absurd rfl head_ne
  · rfl

theorem braced?_framed : Framed (braced? spaced) :=
  (number?_framed spaced).bind (counted?_framed spaced)

end Count
end Pattern
end JavaTypes
