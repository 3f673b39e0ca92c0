import JavaTypes.Proofs.Reading

/-!
# What reading a class depends on

A class in brackets is read by what it uses up, as its members are: letters, escapes and ranges, and
classes that are named or nested.  A round of reading looks ahead only for what follows a hyphen and
for the name of a class.
-/

namespace JavaTypes
namespace Pattern
namespace Bracket

variable (spaced : Bool)

theorem hyphens_framed (inComment : Bool) (members : List CharClass) :
    Framed fun text => some (hyphens spaced inComment members text) := by
  intro text
  induction text generalizing inComment members with
  | nil => exact .of_nil fun _ _ read => by cases read; rfl
  | cons c text ih =>
      cases inComment with
      | true => exact .of_cons (fun _ => rfl) (ih (c != '\n') members)
      | false =>
          cases hash : spaced && c == '#' with
          | true => exact .of_cons (fun _ => by simp [hyphens, hash]) (ih true members)
          | false =>
              cases blank : spaced && Text.isBlank c with
              | true => exact .of_cons (fun _ => by simp [hyphens, hash, blank]) (ih false members)
              | false =>
                  cases hyphen : c == '-' with
                  | true =>
                      exact .of_cons (fun _ => by simp [hyphens, hash, blank, hyphen])
                        (ih false (.letter { char := '-' } :: members))
                  | false =>
                      exact .of_halt (fun _ => by simp [hyphens, hash, blank, hyphen])
                        (fun _ => by simp [hyphens, Text.isBlank, Text.blankRanges]) rfl text

theorem begun_framed (negated : Bool) (members : List CharClass) :
    Framed fun text => some (begun spaced negated members text) := by
  have plain : Framed fun text => some (({ negated, members } : Bracket), text) := .pure _
  cases members with
  | cons member members => exact plain
  | nil =>
      let literal : Bracket := { negated, members := [.letter { char := ']' }] }
      refine .branch (c := ']') (by decide) (fun _ => rfl) (fun text head_ne => ?_)
        ((gap_framed spaced).map fun _ => literal) plain
      rw [begun.eq_def]
      split
      · exact absurd rfl head_ne
      · rfl

theorem opening_framed (negated : Bool) : Framed fun text => some (opening spaced negated text) :=
  (hyphens_framed spaced false []).bind (begun_framed spaced negated)

theorem opened_framed : Framed fun text => some (opened spaced text) := by
  refine .branchAfterGap spaced (c := '^') (by decide) (fun text rest gap_eq => ?_)
    (fun text head_ne => ?_) (opening_framed spaced true) (opening_framed spaced false)
  · rw [opened, gap_eq]
    rfl
  · rw [opened]
    split
    · next rest gap_eq => exact absurd (congrArg List.head? gap_eq) head_ne
    · rfl

/-- A member uses up its first character. -/
theorem member?_framed (c : Char) : Framed fun text => member? spaced (c :: text) := by
  by_cases backslash : c = '\\'
  · subst backslash
    intro text escape rest read
    obtain ⟨read_escape, no_place⟩ := Option.filter_eq_some_iff.mp read
    obtain ⟨used, rfl, frame⟩ := Escape.read?_frame spaced read_escape
    refine ⟨used, rfl, fun other agrees => Option.filter_eq_some_iff.mpr ⟨?_, no_place⟩⟩
    exact frame other agrees fun place => by simp [place, Escape.isPlace] at no_place
  · have plain : Framed fun text => some (Escape.letter { char := c }, text) := .pure _
    have member_eq : (fun text => member? spaced (c :: text)) = fun text =>
        some (Escape.letter { char := c }, text) := by
      funext text
      simp [member?]
    rw [member_eq]
    exact plain

/-- What is ahead of a hyphen does not depend on what follows, as far as the class may end. -/
theorem ahead_iff {text other : List Char} {c : Char} (inComment : Bool)
    (agrees : AgreesTo text other) (ne : c ≠ ')') :
    ahead spaced inComment other = some c ↔ ahead spaced inComment text = some c := by
  induction agrees generalizing inComment with
  | cons d agrees ih => simp only [ahead, apply_ite (· = some c), ih]
  | @ending _ other ends =>
      have closing (rest : List Char) : ahead spaced inComment (')' :: rest) ≠ some c := by
        simp [ahead, Text.isBlank, Text.blankRanges, ne.symm]
      refine iff_of_false ?_ (closing _)
      cases other with
      | nil => simp [ahead]
      | cons d more =>
          obtain rfl := isEnding_cons_iff.mp ends
          exact closing more

theorem isLastHyphen_of_agreesTo {text other : List Char} (agrees : AgreesTo text other) :
    isLastHyphen spaced other = isLastHyphen spaced text := by
  rw [Bool.eq_iff_iff]
  simp only [isLastHyphen, Bool.or_eq_true, beq_iff_eq]
  rw [ahead_iff spaced false agrees (by decide), ahead_iff spaced false agrees (by decide)]

theorem rangeFrom?_of_head?_ne {first : Escape} {text : List Char}
    (head_ne : text.head? ≠ some '-') :
    rangeFrom? spaced first text = (alone? first).map fun only => (only, text) := by
  rw [rangeFrom?.eq_def]
  split
  · exact absurd rfl head_ne
  · rfl

/-- The end of a range, after the hyphen. -/
theorem rangeEnd_framed (first : Escape) : Framed fun more =>
    (member? spaced (gap spaced more)).bind fun (last, rest) =>
      (between? first last).map fun range => (range, rest) := by
  have member_framed : Framed (member? spaced) := by
    intro text
    cases text with
    | nil => exact .of_none rfl
    | cons c text => exact .of_cons (fun _ => rfl) (member?_framed spaced c text)
  have range (last : Escape) : Framed fun rest =>
      (between? first last).map fun range => (range, rest) := by
    cases between? first last with
    | none => exact .none
    | some range => exact .pure range
  exact (member_framed.afterGap spaced).bind range

/-- A hyphen that makes no range is left for the next round. -/
theorem rangeFrom?_framed (first : Escape) : Framed (rangeFrom? spaced first) := by
  have stops {text : List Char} (stop : ∀ other, AgreesTo text other →
        rangeFrom? spaced first other = (alone? first).map fun only => (only, other))
      (stop_here : rangeFrom? spaced first text = (alone? first).map fun only => (only, text)) :
      FramedAt (rangeFrom? spaced first) text := by
    cases alone_eq : alone? first with
    | none => exact .of_none (by rw [stop_here, alone_eq, Option.map_none])
    | some only =>
        simp only [alone_eq, Option.map_some] at stop stop_here
        exact .of_stop stop stop_here
  intro text
  by_cases head_eq : text.head? = some '-'
  · obtain ⟨more, rfl⟩ := List.head?_eq_some_iff.mp head_eq
    cases last : isLastHyphen spaced more with
    | true =>
        refine stops (fun other agrees => ?_) (by simp [rangeFrom?, last])
        obtain ⟨others, rfl, agrees_after⟩ := agrees.cases_of_ne (by decide)
        simp [rangeFrom?, isLastHyphen_of_agreesTo spaced agrees_after, last]
    | false =>
        have goes (text : List Char) (inner : isLastHyphen spaced text = false) :
            rangeFrom? spaced first ('-' :: text) =
              (member? spaced (gap spaced text)).bind fun (last, rest) =>
                (between? first last).map fun range => (range, rest) := by
          rw [rangeFrom?, inner]
          rfl
        intro value rest read
        obtain ⟨used, rfl, frame⟩ :=
          rangeEnd_framed spaced first more ((goes more last).symm.trans read)
        refine ⟨'-' :: used, rfl, fun other agrees => ?_⟩
        have last_too : isLastHyphen spaced (used ++ other) = false := by
          rw [isLastHyphen_of_agreesTo spaced (agrees.append used), last]
        exact (goes _ last_too).trans (frame other agrees)
  · exact stops
      (fun other agrees => rangeFrom?_of_head?_ne spaced (agrees.head?_ne (by decide) head_eq))
      (rangeFrom?_of_head?_ne spaced head_eq)

theorem range?_framed (c : Char) : Framed fun text => range? spaced (c :: text) :=
  (member?_framed spaced c).bind fun first => (rangeFrom?_framed spaced first).afterGap spaced

theorem isLower_of_ascii? {name : String} {set : Text.CodeSet}
    (named : CharClass.ascii? name = some set) : ∀ c ∈ name.toList, c.isLower = true := by
  have lower : name.toList.all Char.isLower = true := by
    rw [CharClass.ascii?.eq_def] at named
    split at named
    case h_15 => cases named
    all_goals rfl
  exact List.all_eq_true.mp lower

theorem nameOf?_eq_some_iff {negated : Bool} {text after : List Char} {members : CharClass} :
    nameOf? negated text = some (members, after) ↔
      ∃ (name : String) (set : Text.CodeSet), CharClass.ascii? name = some set ∧
        members = .named set negated ∧ text = name.toList ++ ':' :: ']' :: after := by
  constructor
  · intro read
    rw [nameOf?.eq_def] at read
    split at read
    · next rest between =>
        obtain ⟨set, named, ⟨⟩⟩ := Option.map_eq_some_iff.mp read
        refine ⟨_, set, named, rfl, ?_⟩
        rw [String.toList_ofList, ← between, List.takeWhile_append_dropWhile]
    · cases read
  · rintro ⟨name, set, named, rfl, rfl⟩
    have no_colon : ∀ c ∈ name.toList, (c != ':') = true := by
      intro c member
      refine bne_iff_ne.mpr ?_
      rintro rfl
      simpa using isLower_of_ascii? named ':' member
    have rest_eq : (name.toList ++ ':' :: ']' :: after).dropWhile (· != ':') =
        ':' :: ']' :: after := by
      rw [List.dropWhile_append_of_pos no_colon]
      rfl
    have name_eq : (name.toList ++ ':' :: ']' :: after).takeWhile (· != ':') = name.toList := by
      rw [List.takeWhile_append_of_pos no_colon]
      simp
    simp [nameOf?, rest_eq, name_eq, named]

/-- How the name of a class is written, after the first bracket. -/
def nameText (negated : Bool) (name : String) : List Char :=
  (if negated then [':', '^'] else [':']) ++ (name.toList ++ [':', ']'])

theorem named?_eq_some_iff {text after : List Char} {members : CharClass} :
    named? text = some (members, after) ↔
      ∃ (negated : Bool) (name : String) (set : Text.CodeSet), CharClass.ascii? name = some set ∧
        members = .named set negated ∧ text = nameText negated name ++ after := by
  constructor
  · intro read
    rw [named?.eq_def] at read
    split at read
    · next text =>
        obtain ⟨name, set, named, rfl, rfl⟩ := nameOf?_eq_some_iff.mp read
        exact ⟨true, name, set, named, rfl, by simp [nameText]⟩
    · next text _ =>
        obtain ⟨name, set, named, rfl, rfl⟩ := nameOf?_eq_some_iff.mp read
        exact ⟨false, name, set, named, rfl, by simp [nameText]⟩
    · cases read
  · rintro ⟨negated, name, set, named, rfl, rfl⟩
    have read : nameOf? negated (name.toList ++ ':' :: ']' :: after) =
        some (.named set negated, after) :=
      nameOf?_eq_some_iff.mpr ⟨name, set, named, rfl, rfl⟩
    have no_caret (text : List Char) : name.toList ++ ':' :: ']' :: after ≠ '^' :: text := by
      have lower := isLower_of_ascii? named
      cases chars : name.toList with
      | nil => simp
      | cons c others =>
          rw [List.cons_append, ne_eq, List.cons.injEq]
          rintro ⟨rfl, -⟩
          simpa using lower '^' (by simp [chars])
    cases negated with
    | true =>
        have text_eq : nameText true name ++ after =
            ':' :: '^' :: (name.toList ++ ':' :: ']' :: after) := by simp [nameText]
        rw [text_eq, named?]
        exact read
    | false =>
        have text_eq : nameText false name ++ after =
            ':' :: (name.toList ++ ':' :: ']' :: after) := by simp [nameText]
        rw [text_eq, named?]
        · exact read
        · exact no_caret

theorem named?_framed : Framed named? := by
  intro text members after read
  obtain ⟨negated, name, set, named, rfl, rfl⟩ := named?_eq_some_iff.mp read
  exact ⟨nameText negated name, rfl,
    fun other _ => named?_eq_some_iff.mpr ⟨negated, name, set, named, rfl, rfl⟩⟩

/-- Where no name is found, none is found if the text goes on in another way. -/
theorem named?_of_agreesTo {text other : List Char} (nothing : named? text = none)
    (agrees : AgreesTo text other) : named? other = none := by
  by_contra found
  obtain ⟨⟨members, after⟩, read⟩ := Option.ne_none_iff_exists'.mp found
  obtain ⟨negated, name, set, named, rfl, rfl⟩ := named?_eq_some_iff.mp read
  have open_still : ')' ∉ nameText negated name := by
    have not_lower : ')' ∉ name.toList := fun member => by
      simpa using isLower_of_ascii? named ')' member
    cases negated <;> simp [nameText, not_lower]
  obtain ⟨more, rfl, -⟩ := agrees.exists_append open_still
  have read_too : named? (nameText negated name ++ more) = some (.named set negated, more) :=
    named?_eq_some_iff.mpr ⟨negated, name, set, named, rfl, rfl⟩
  cases read_too.symm.trans nothing

theorem nested?_framed (inner : Bracket) (outer : List Bracket) :
    Framed (nested? spaced inner outer) := by
  have begun : Framed fun text =>
      if outer.length < Tree.maxNesting then
        some (Progress.within (opened spaced text).1 (inner :: outer), (opened spaced text).2)
      else none := by
    split
    · exact (opened_framed spaced).map fun bracket => Progress.within bracket (inner :: outer)
    · exact .none
  intro text
  cases named : named? text with
  | some found =>
      intro progress rest read
      rw [nested?, named] at read
      obtain ⟨rfl, rfl⟩ := Prod.mk.inj (Option.some.inj read)
      obtain ⟨used, text_eq, frame⟩ := named?_framed text named
      refine ⟨used, text_eq, fun other agrees => ?_⟩
      rw [nested?, frame other agrees]
  | none =>
      intro progress rest read
      have unnamed {text : List Char} (named : named? text = none) :
          nested? spaced inner outer text =
            if outer.length < Tree.maxNesting then
              some (.within (opened spaced text).1 (inner :: outer), (opened spaced text).2)
            else none := by
        rw [nested?, named]
      obtain ⟨used, rfl, frame⟩ := begun text ((unnamed named).symm.trans read)
      refine ⟨used, rfl, fun other agrees => ?_⟩
      rw [unnamed (named?_of_agreesTo named (agrees.append used))]
      exact frame other agrees

/-- No operation begins with a sign that is not doubled. -/
theorem round?_of_head?_ne {inner : Bracket} {outer : List Bracket} {c : Char} {text : List Char}
    (no_close : c ≠ ']') (no_open : c ≠ '[') (head_ne : text.head? ≠ some c) :
    round? spaced inner outer c text = (range? spaced (c :: text)).map fun (member, after) =>
      (.within (inner.add member) outer, after) := by
  rw [round?.eq_def]
  split
  · exact absurd rfl no_close
  · exact absurd rfl head_ne
  · exact absurd rfl head_ne
  · exact absurd rfl head_ne
  · exact absurd rfl no_open
  · rfl

/-- A round uses up its first character. -/
theorem round?_framed (inner : Bracket) (outer : List Bracket) (c : Char) :
    Framed (round? spaced inner outer c) := by
  have member : Framed fun text => (range? spaced (c :: text)).map fun (member, after) =>
      (Progress.within (inner.add member) outer, after) :=
    (range?_framed spaced c).map fun member => Progress.within (inner.add member) outer
  have twice (operation : SetOperation) (ne : c ≠ ')') (no_close : c ≠ ']') (no_open : c ≠ '[')
      (on_c : ∀ rest, round? spaced inner outer c (c :: rest) =
        some (.within (inner.operate operation) outer, rest)) :
      Framed (round? spaced inner outer c) :=
    .branch ne on_c (fun _ => round?_of_head?_ne spaced no_close no_open)
      (.pure (Progress.within (inner.operate operation) outer)) member
  by_cases close : c = ']'
  · subst close
    exact .pure (closed inner outer)
  by_cases nested : c = '['
  · subst nested
    exact nested?_framed spaced inner outer
  by_cases inter : c = '&'
  · subst inter
    exact twice .inter (by decide) (by decide) (by decide) fun _ => rfl
  by_cases diff : c = '-'
  · subst diff
    exact twice .diff (by decide) (by decide) (by decide) fun _ => rfl
  by_cases symmetric : c = '~'
  · subst symmetric
    exact twice .symmetricDiff (by decide) (by decide) (by decide) fun _ => rfl
  have alone : round? spaced inner outer c = fun text =>
      (range? spaced (c :: text)).map fun (member, after) =>
        (.within (inner.add member) outer, after) := by
    funext text
    simp [round?, inter, diff, symmetric]
  rw [alone]
  exact member

/-- The induction is on the rounds, each of which uses up at least one character. -/
theorem readFrom?_frame {fuel : Nat} {inner : Bracket} {outer : List Bracket}
    {text rest : List Char} {members : CharClass}
    (read : readFrom? spaced fuel inner outer text = some (members, rest)) :
    ∃ used, text = used ++ rest ∧ ∀ other, AgreesTo rest other → ∀ enough, used.length ≤ enough →
      readFrom? spaced enough inner outer (used ++ other) = some (members, other) := by
  induction fuel generalizing inner outer text with
  | zero => cases read
  | succ fuel ih =>
      obtain ⟨blanks, text_eq, gap_frame⟩ := gap_framed spaced text rfl
      rw [readFrom?] at read
      split at read
      · cases read
      · next c after gap_eq =>
          rw [gap_eq] at text_eq gap_frame
          have round_frame {progress : Progress} {between : List Char}
              (round : round? spaced inner outer c after = some (progress, between)) :
              ∃ used, text = blanks ++ c :: used ++ between ∧ ∀ other, AgreesTo between other →
                gap spaced (blanks ++ c :: used ++ other) = c :: (used ++ other) ∧
                round? spaced inner outer c (used ++ other) = some (progress, other) := by
            obtain ⟨used, rfl, frame⟩ := round?_framed spaced inner outer c after round
            refine ⟨used, by simp [text_eq], fun other agrees => ⟨?_, frame other agrees⟩⟩
            have gap_other := gap_frame (c :: (used ++ other)) (.cons c (agrees.append used))
            simpa using gap_other
          split at read
          · next round =>
              obtain ⟨rfl, rfl⟩ := Prod.mk.inj (Option.some.inj read)
              obtain ⟨used, text_eq, frame⟩ := round_frame round
              refine ⟨_, text_eq, fun other agrees enough bound => ?_⟩
              obtain ⟨gap_other, round_other⟩ := frame other agrees
              rw [List.length_append, List.length_cons] at bound
              obtain ⟨enough, rfl⟩ := Nat.exists_eq_add_one.mpr (show 0 < enough by omega)
              rw [readFrom?, gap_other]
              simp only [round_other]
          · next inner outer between round =>
              obtain ⟨used, text_eq, frame⟩ := round_frame round
              obtain ⟨more, rfl, frame_after⟩ := ih read
              refine ⟨blanks ++ c :: used ++ more, by simp [text_eq],
                fun other agrees enough bound => ?_⟩
              obtain ⟨gap_other, round_other⟩ := frame _ (agrees.append more)
              rw [List.length_append, List.length_append, List.length_cons] at bound
              obtain ⟨enough, rfl⟩ := Nat.exists_eq_add_one.mpr (show 0 < enough by omega)
              rw [List.append_assoc, readFrom?, gap_other]
              simp only [round_other]
              exact frame_after other agrees enough (by omega)
          · cases read

theorem read?_framed : Framed (read? spaced) := by
  intro text members rest read
  obtain ⟨used, text_eq, opened_frame⟩ := opened_framed spaced text rfl
  obtain ⟨more, rest_eq, frame⟩ := readFrom?_frame spaced read
  rw [rest_eq] at text_eq opened_frame
  refine ⟨used ++ more, by rw [text_eq, List.append_assoc], fun other agrees => ?_⟩
  have opened_other := Option.some.inj (opened_frame _ (agrees.append more))
  rw [List.append_assoc, read?, opened_other]
  exact frame other agrees _ (by simp; omega)

end Bracket
end Pattern
end JavaTypes
