import JavaTypes.Pattern.Meaning
import JavaTypes.Proofs.GroupClosing

/-!
# The first group of a pattern

A group that stands before all flags, with nothing but places before it, is read, nested and meant
as a pattern by itself, whatever follows it.
-/

namespace JavaTypes
namespace Pattern

/-- Whether a tree stands in another before all flags, in groups without flags at most. -/
inductive Tree.Leading (body : Tree) : Tree → Prop where
  | self : Leading body body
  | group {tree : Tree} (leading : Leading body tree) : Leading body (.group (.plain []) tree)
  | repeated {tree : Tree} (leading : Leading body tree) (least : Nat) (most : Option Nat)
      (short : Bool) : Leading body (.repeated tree least most short)
  | first {tree : Tree} (leading : Leading body tree) (rest : Tree) :
      Leading body (.sequence tree rest)
  | afterPlace {tree : Tree} (place : Place) (leading : Leading body tree) :
      Leading body (.sequence (.place place) tree)
  | choice {tree : Tree} (leading : Leading body tree) (rest : Tree) :
      Leading body (.choice tree rest)

namespace Tree

variable {body tree : Tree}

theorem Leading.nesting_le (leading : Leading body tree) : body.nesting ≤ tree.nesting := by
  induction leading with
  | self => exact le_rfl
  | group _ ih | repeated _ _ _ _ ih => exact ih.trans (Nat.le_succ _)
  | first _ rest ih | choice _ rest ih => exact (ih.trans (Nat.le_succ _)).trans (le_max_left _ _)
  | @afterPlace tree place _ ih =>
      refine ih.trans (le_trans ?_ (le_max_right _ _))
      split
      · exact le_rfl
      · exact Nat.le_succ _

/-- What stands before all flags has the meaning that it has by itself. -/
theorem Leading.isSome_meanings? (leading : Leading body tree) (modes : Modes)
    (meant : (tree.meanings? modes).isSome = true) : (body.meanings? modes).isSome = true := by
  have of_bind {α β : Type} {found : Option α} {next : α → Option β}
      (all : (found.bind next).isSome = true) : found.isSome = true := by
    cases found with
    | none => cases all
    | some _ => rfl
  induction leading with
  | self => exact meant
  | group _ ih | repeated _ _ _ _ ih | first _ _ ih | choice _ _ ih => exact ih (of_bind meant)
  | afterPlace place _ ih => exact ih (of_bind meant)

theorem Leading.isSome_expression? (leading : Leading body tree)
    (expressed : tree.expression?.isSome = true) : body.expression?.isSome = true := by
  rw [expression?, Option.isSome_map] at *
  exact leading.isSome_meanings? {} expressed

/-- The first of several parts stands before all others. -/
theorem ofParts_append_singleton (first : Tree) (parts : List Tree) :
    ofParts (parts ++ [first]) = if parts = [] then first else sequence first (ofParts parts) := by
  cases parts with
  | nil => rfl
  | cons last before => simp [ofParts]

theorem ofAlternatives_append_singleton (first : Tree) (alternatives : List Tree) :
    ofAlternatives (alternatives ++ [first]) =
      if alternatives = [] then first else choice first (ofAlternatives alternatives) := by
  cases alternatives with
  | nil => rfl
  | cons last before => simp [ofAlternatives]

theorem Leading.ofParts (leading : Leading body tree) (place : Place) (parts : List Tree) :
    Leading body (.ofParts (parts ++ [tree, .place place])) := by
  rw [List.append_cons, ofParts_append_singleton, if_neg (by simp), ofParts_append_singleton]
  split
  · exact .afterPlace place leading
  · exact .afterPlace place (leading.first _)

theorem Leading.ofAlternatives (leading : Leading body tree) (alternatives : List Tree) :
    Leading body (.ofAlternatives (alternatives ++ [tree])) := by
  rw [ofAlternatives_append_singleton]
  split
  · exact leading
  · exact leading.choice _

end Tree

/-- Whether a tree leads the first part, after a place, of the first alternative of a level. -/
inductive Level.BeginsWith (body : Tree) : Level → Prop where
  | parts {first : Tree} (leading : Tree.Leading body first) (place : Place) (parts : List Tree) :
      BeginsWith body { parts := parts ++ [first, .place place] }
  | alternatives {first : Tree} (leading : Tree.Leading body first)
      (alternatives parts : List Tree) :
      BeginsWith body { alternatives := alternatives ++ [first], parts }

namespace Level

variable {body : Tree} {level : Level}

theorem BeginsWith.add (begins : BeginsWith body level) (part : Tree) :
    BeginsWith body (level.add part) := by
  cases begins with
  | parts leading place parts => exact .parts leading place (part :: parts)
  | alternatives leading alternatives parts => exact .alternatives leading alternatives _

theorem BeginsWith.divide (begins : BeginsWith body level) : BeginsWith body level.divide := by
  cases begins with
  | parts leading place parts => exact .alternatives (leading.ofParts place parts) [] []
  | alternatives leading alternatives parts => exact .alternatives leading (_ :: alternatives) []

theorem BeginsWith.repeated (begins : BeginsWith body level) {last : Tree} {before : List Tree}
    (parts_eq : level.parts = last :: before) (least : Nat) (most : Option Nat) (short : Bool) :
    BeginsWith body { level with parts := .repeated last least most short :: before } := by
  cases begins with
  | @parts first leading place parts =>
      cases parts with
      | nil =>
          obtain ⟨rfl, rfl⟩ := List.cons.inj parts_eq
          exact .parts (leading.repeated least most short) place []
      | cons part parts =>
          obtain ⟨rfl, rfl⟩ := List.cons.inj parts_eq
          exact .parts leading place (_ :: parts)
  | alternatives leading alternatives parts => exact .alternatives leading alternatives _

theorem BeginsWith.tree (begins : BeginsWith body level) : Tree.Leading body level.tree := by
  cases begins with
  | parts leading place parts => exact leading.ofParts place parts
  | alternatives leading alternatives parts =>
      exact leading.ofAlternatives (_ :: alternatives)

end Level

namespace Reader

/-- The level outside of all groups, which the outermost group holds if there is one. -/
def outermost (reader : Reader) : Level :=
  reader.groups.foldl (fun _ group => group.before) reader.level

/-- Whether what has been read outside of all groups begins with a tree after a place. -/
def BeginsWith (body : Tree) (reader : Reader) : Prop := reader.outermost.BeginsWith body

variable {body : Tree} {reader next : Reader}

/-- Reading on within a level changes the outermost one if that is the one. -/
theorem BeginsWith.within (begins : reader.BeginsWith body)
    (groups_eq : next.groups = reader.groups)
    (kept : reader.level.BeginsWith body → next.level.BeginsWith body) : next.BeginsWith body := by
  rw [BeginsWith, outermost] at *
  rw [groups_eq]
  cases groups : reader.groups with
  | nil =>
      rw [groups] at begins
      exact kept begins
  | cons group outer =>
      rw [groups] at begins
      exact begins

theorem BeginsWith.add (begins : reader.BeginsWith body) (part : Tree) :
    (reader.add part).BeginsWith body :=
  begins.within rfl fun begins => begins.add part

/-- A group that opens keeps what was read before it. -/
theorem BeginsWith.enter (begins : reader.BeginsWith body) (kind : GroupKind) (spaced : Bool) :
    (reader.enter kind spaced).BeginsWith body := begins

theorem BeginsWith.close? (begins : reader.BeginsWith body) (closed : reader.close? = some next) :
    next.BeginsWith body := by
  rw [Reader.close?] at closed
  split at closed
  · cases closed
  · next group outer groups_eq =>
      obtain rfl := Option.some.inj closed
      have before : ({ reader with level := group.before, groups := outer } : Reader).BeginsWith
          body := by
        rw [BeginsWith, outermost, groups_eq] at begins
        exact begins
      exact before.within rfl fun begins => begins.add _

theorem BeginsWith.repeat? (begins : reader.BeginsWith body) {count : Count}
    (repeated : reader.repeat? count = some next) : next.BeginsWith body := by
  rw [Reader.repeat?] at repeated
  split at repeated
  · cases repeated
  · next last before parts_eq =>
      split at repeated
      · obtain rfl := Option.some.inj repeated
        exact begins.within rfl fun begins => begins.repeated parts_eq _ _ _
      · cases repeated

theorem BeginsWith.enterAs? (begins : reader.BeginsWith body) {name : List Char}
    (entered : reader.enterAs? name = some next) : next.BeginsWith body := by
  rw [Reader.enterAs?] at entered
  split at entered
  · cases entered
  · obtain rfl := Option.some.inj entered
    exact begins

theorem BeginsWith.enterNamed? (begins : reader.BeginsWith body) {text rest : List Char}
    (read : reader.enterNamed? text = some (next, rest)) : next.BeginsWith body := by
  obtain ⟨⟨name, after⟩, -, named⟩ := Option.bind_eq_some_iff.mp read
  obtain ⟨_, entered, next_eq⟩ := Option.map_eq_some_iff.mp named
  obtain ⟨rfl, -⟩ := Prod.mk.inj next_eq
  exact begins.enterAs? entered

theorem BeginsWith.change? (begins : reader.BeginsWith body) {changes : List ModeChange}
    {opens : Bool} (changed : reader.change? changes opens = some next) :
    next.BeginsWith body := by
  rw [Reader.change?] at changed
  split at changed
  · obtain rfl := Option.some.inj changed
    exact begins.enter _ _
  · split at changed
    · cases changed
    · obtain rfl := Option.some.inj changed
      exact begins.within rfl fun begins => begins.add _

theorem BeginsWith.changeFlags? (begins : reader.BeginsWith body) {text rest : List Char}
    (read : reader.changeFlags? text = some (next, rest)) : next.BeginsWith body := by
  obtain ⟨⟨⟨changes, opens⟩, after⟩, -, flagged⟩ := Option.bind_eq_some_iff.mp read
  obtain ⟨_, changed, next_eq⟩ := Option.map_eq_some_iff.mp flagged
  obtain ⟨rfl, -⟩ := Prod.mk.inj next_eq
  exact begins.change? changed

theorem BeginsWith.open? (begins : reader.BeginsWith body) {text rest : List Char}
    (opened : reader.open? text = some (next, rest)) : next.BeginsWith body := by
  have angled {text : List Char} (opened : reader.openAngled? text = some (next, rest)) :
      next.BeginsWith body := by
    rw [openAngled?.eq_def] at opened
    split at opened
    · cases opened
    · cases opened
    · exact begins.enterNamed? opened
  have marked {text : List Char} (opened : reader.openMarked? text = some (next, rest)) :
      next.BeginsWith body := by
    rw [openMarked?.eq_def] at opened
    split at opened
    · cases opened
    · cases opened
    · exact angled opened
    · exact begins.enterNamed? opened
    · exact begins.changeFlags? opened
  rw [Reader.open?] at opened
  split at opened
  · exact marked opened
  · obtain ⟨rfl, -⟩ := Prod.mk.inj (Option.some.inj opened)
    exact begins

/-- What has been read first stays where it is. -/
theorem BeginsWith.step? (begins : reader.BeginsWith body) {c : Char} {text rest : List Char}
    (step : reader.step? c text = some (next, rest)) : next.BeginsWith body := by
  have of_map {α : Type} {found : Option α} {result : α → Reader × List Char}
      (step : found.map result = some (next, rest))
      (each : ∀ value, found = some value → (result value).1.BeginsWith body) :
      next.BeginsWith body := by
    obtain ⟨value, found_eq, result_eq⟩ := Option.map_eq_some_iff.mp step
    have kept := each value found_eq
    rwa [result_eq] at kept
  have of_some {after : Reader × List Char} (step : some after = some (next, rest))
      (kept : after.1.BeginsWith body) : next.BeginsWith body := by
    rwa [Option.some.inj step] at kept
  rw [step?.eq_def] at step
  split at step
  case h_1 =>
    split at step
    · exact begins.open? step
    · cases step
  case h_2 => exact of_map step fun _ closed => begins.close? closed
  case h_3 => exact of_some step (begins.within rfl fun begins => begins.divide)
  case h_5 | h_6 | h_7 => exact of_map step fun _ repeated => begins.repeat? repeated
  case h_8 =>
    obtain ⟨⟨count, after⟩, -, step⟩ := Option.bind_eq_some_iff.mp step
    exact of_map step fun _ repeated => begins.repeat? repeated
  case h_4 | h_9 => exact of_map step fun _ _ => begins.add _
  all_goals exact of_some step (begins.add _)

theorem BeginsWith.reads {before after : Reader × List Char} (begins : before.1.BeginsWith body)
    (reads : Reads before after) : after.1.BeginsWith body := by
  induction reads with
  | refl => exact begins
  | tail _ step ih =>
      obtain ⟨-, step⟩ := step
      exact ih.step? step

/-- Whether a text is read to its end by itself, also where a parenthesis closes something after
it. -/
def ReadsAlone (text : List Char) (last : Reader) : Prop :=
  last.groups = [] ∧ ∀ ending, IsEnding ending →
    ∃ left, Reads ({}, text ++ ending) (last, left) ∧ gap last.spaced left = ending

theorem ReadsAlone.run? {text : String} {last : Reader} (alone : ReadsAlone text.toList last) :
    Reader.run? (text.length + 1) {} text.toList = some last := by
  obtain ⟨left, reads, gap_eq⟩ := alone.2 [] (by simp [IsEnding])
  rw [List.append_nil] at reads
  exact run?_of_reads reads gap_eq (by simp [String.length_toList])

/-- A parenthesis after a text that leaves no group open closes nothing. -/
theorem ReadsAlone.run?_closing {text : List Char} {last : Reader} (alone : ReadsAlone text last)
    (more : List Char) (fuel : Nat) : Reader.run? fuel {} (text ++ ')' :: more) = none := by
  obtain ⟨left, reads, gap_eq⟩ := alone.2 (')' :: more) (isEnding_cons_iff.mpr rfl)
  refine run?_eq_none_of_reads reads gap_eq ?_ fuel
  rw [Reader.step?, Reader.close?, alone.1]
  rfl

end Reader

/-- If an anchored text is one that closes a group and goes on, the parenthesis is the one before
the anchor or one before that. -/
theorem closes_after_or_within {source inner after : String}
    (split : source ++ ")$" = inner ++ ")" ++ after) :
    inner = source ∧ after = "$" ∨ ∃ more, source = inner ++ ")" ++ more := by
  have lists : source.toList ++ [')', '$'] = (inner.toList ++ [')']) ++ after.toList := by
    simpa using congrArg String.toList split
  obtain ⟨more, inner_eq, after_eq⟩ | ⟨more, source_eq, -⟩ := List.append_eq_append_iff.mp lists
  · match more with
    | [] =>
        right
        exact ⟨"", String.toList_inj.mp (by simpa using inner_eq.symm)⟩
    | [_] =>
        left
        obtain ⟨rfl, last_eq⟩ := List.cons.inj after_eq
        exact ⟨String.toList_inj.mp (List.append_cancel_right inner_eq),
          String.toList_inj.mp last_eq.symm⟩
    | _ :: _ :: _ =>
        obtain ⟨rfl, last_eq⟩ := List.cons.inj after_eq
        obtain ⟨rfl, rest_eq⟩ := List.cons.inj last_eq
        obtain ⟨rfl, -⟩ := List.append_eq_nil_iff.mp rest_eq.symm
        simpa using congrArg List.getLast? inner_eq
  · right
    exact ⟨String.ofList more, String.toList_inj.mp (by simp [source_eq])⟩

namespace Tree

open Reader (ReadsAlone Reads)

theorem ofText?_eq_some_iff {text : String} {tree : Tree} :
    ofText? text = some tree ↔ ∃ reader,
      Reader.run? (text.length + 1) {} text.toList = some reader ∧ reader.groups = [] ∧
        reader.level.tree.nesting ≤ maxNesting ∧ reader.level.tree = tree := by
  rw [ofText?]
  cases Reader.run? (text.length + 1) {} text.toList with
  | none => simp
  | some reader => simp [and_assoc]

/-- The group that is read after the beginning. -/
def firstGroup : OpenGroup :=
  { kind := .plain [], before := { parts := [.place .lineStart] }, spaced := false }

/-- The reading of a pattern that begins with a group: what stands in the group is read by itself,
and what follows its parenthesis after it. -/
structure FirstGroup (rest : String) where
  inner : String
  after : String
  last : Reader
  final : Reader
  left : List Char
  text_eq : rest = inner ++ ")" ++ after
  alone : ReadsAlone inner.toList last
  reads : Reads (last.closing firstGroup, after.toList) (final, left)
  ends : gap final.spaced left = []
  closed : final.groups = []

theorem exists_firstGroup {rest : String} {tree : Tree}
    (read : ofText? ("^(?:" ++ rest) = some tree) : ∃ group : FirstGroup rest,
      group.final.level.tree.nesting ≤ maxNesting ∧ group.final.level.tree = tree := by
  obtain ⟨final, run, closed, shallow⟩ := ofText?_eq_some_iff.mp read
  have opened : Reader.run? (rest.length + 5) {} ("^(?:" ++ rest).toList =
      Reader.run? (rest.length + 3) (({} : Reader).inside firstGroup) rest.toList := by
    rw [String.toList_append]
    rfl
  have length_eq : ("^(?:" ++ rest).length + 1 = rest.length + 5 := by
    rw [String.length_append]
    exact Nat.add_comm 4 _ ▸ rfl
  rw [length_eq, opened] at run
  obtain ⟨left, reads, ends⟩ := Reader.reads_of_run? run
  obtain ⟨used, blanks, after, last, text_eq, groups_eq, reads_after, frame⟩ :=
    Reader.exists_closing reads closed
  have alone : ReadsAlone used last :=
    ⟨groups_eq, fun ending ends => ⟨blanks ++ ending, frame ending ends⟩⟩
  exact ⟨{
    inner := .ofList used
    after := .ofList after
    last, final, left, ends, closed
    text_eq := String.toList_inj.mp (by simp [text_eq])
    alone := by rwa [String.toList_ofList]
    reads := by rwa [String.toList_ofList] }, shallow⟩

/-- What stands in a group after the beginning is a pattern by itself, and leads the whole. -/
theorem exists_leading {rest : String} {tree : Tree} (read : ofText? ("^(?:" ++ rest) = some tree) :
    ∃ inner after alone, rest = inner ++ ")" ++ after ∧ ofText? inner = some alone ∧
      Leading alone tree := by
  obtain ⟨group, shallow, rfl⟩ := exists_firstGroup read
  have begins : (group.last.closing firstGroup).BeginsWith group.last.level.tree := by
    rw [Reader.BeginsWith, Reader.outermost, Reader.closing, group.alone.1]
    exact .parts (.group .self) .lineStart []
  have begins_final := begins.reads group.reads
  rw [Reader.BeginsWith, Reader.outermost, group.closed] at begins_final
  have leading := begins_final.tree
  exact ⟨group.inner, group.after, group.last.level.tree, group.text_eq, ofText?_eq_some_iff.mpr
    ⟨group.last, group.alone.run?, group.alone.1, leading.nesting_le.trans shallow, rfl⟩, leading⟩

/-- The pattern that matches all of a text or nothing. -/
def anchored (alone : Tree) : Tree :=
  .sequence (.place .lineStart) (.sequence (.group (.plain []) alone) (.place .lineEnd))

/-- After the group there is only the anchor to be read. -/
theorem tree_of_closing {last final : Reader} {left : List Char}
    (reads : Reads (last.closing firstGroup, ['$']) (final, left))
    (ends : gap final.spaced left = []) : final.level.tree = last.level.tree.anchored := by
  have run : Reader.run? 2 (last.closing firstGroup) ['$'] = some final :=
    Reader.run?_of_reads reads ends (Nat.lt_succ_self 1)
  obtain rfl := Option.some.inj run
  rfl

/-- A pattern by itself is read in the group as it is by itself. -/
theorem eq_anchored {source : String} {alone tree : Tree} (read_alone : ofText? source = some alone)
    (read : ofText? ("^(?:" ++ source ++ ")$") = some tree) : tree = alone.anchored := by
  rw [String.append_assoc] at read
  obtain ⟨⟨inner, after, last, final, left, text_eq, inner_alone, reads, ends, closed⟩, -, rfl⟩ :=
    exists_firstGroup read
  obtain ⟨reader, run, -, -, rfl⟩ := ofText?_eq_some_iff.mp read_alone
  obtain ⟨rfl, rfl⟩ | ⟨more, rfl⟩ := closes_after_or_within text_eq
  · rw [inner_alone.run?] at run
    obtain rfl := Option.some.inj run
    exact tree_of_closing reads ends
  · have split : (inner ++ ")" ++ more).toList = inner.toList ++ ')' :: more.toList := by simp
    rw [split, inner_alone.run?_closing] at run
    cases run

/-- The expression for a pattern in a group between the ends of the text. -/
theorem expression?_anchored (alone : Tree) :
    alone.anchored.expression? = alone.expression?.map fun expression =>
      .append (.anchor .textStart) (.append expression (.anchor .textEnd)) := by
  rw [expression?, expression?, anchored]
  have unchanged : ({} : Modes).changed [] = {} := rfl
  cases meant : alone.meanings? {} with
  | none => simp [meanings?, unchanged, meant]
  | some found => simp [meanings?, unchanged, meant, Expression.anyOf, Modes.anchor]

end Tree
end Pattern
end JavaTypes
