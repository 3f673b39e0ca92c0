import JavaTypes.Pattern.Expression
import JavaTypes.Text.Property

/-!
# Searching a text for matches

Positions of a text lie before, between and after its characters.  A match leads from the position
at which it begins to the one at which it ends, and an expression leads from the set of positions at
which matches may begin to the set of those at which they may end.  A set of positions is a number
whose binary digits say which positions belong to it, the lowest being that of the first position.
-/

namespace JavaTypes
namespace Pattern

open Text (CodeSet)

/-- A text that is searched. -/
structure Subject where
  /-- The number of characters. -/
  length : Nat
  /-- The characters that occur, each once, with the positions before which it occurs. -/
  occurrences : List (Char × Nat)
  deriving DecidableEq, Repr

namespace Subject

/-- Adds an occurrence of a character before a position. -/
def occur (position : Nat) (c : Char) : List (Char × Nat) → List (Char × Nat)
  | [] => [(c, 1 <<< position)]
  | (other, positions) :: rest =>
    if other = c then (other, positions ||| 1 <<< position) :: rest
    else (other, positions) :: occur position c rest

/-- A text made ready for searching, from its characters. -/
def ofChars (chars : List Char) : Subject :=
  let add (subject : Subject) (c : Char) : Subject :=
    { length := subject.length + 1
      occurrences := occur subject.length c subject.occurrences }
  chars.foldl add { length := 0, occurrences := [] }

/-- The positions before a member of a set. -/
def before (subject : Subject) (members : CodeSet) : Nat :=
  subject.occurrences.foldl
    (fun positions (c, places) => if members.contains c then positions ||| places else positions) 0

/-- The positions after a member of a set. -/
def after (subject : Subject) (members : CodeSet) : Nat := subject.before members <<< 1

/-- All positions. -/
def positions (subject : Subject) : Nat := 1 <<< (subject.length + 1) - 1

/-- The first position. -/
def start (_ : Subject) : Nat := 1

/-- The last position. -/
def stop (subject : Subject) : Nat := 1 <<< subject.length

/-- The positions of the first set that are not in the second. -/
def less (first second : Nat) : Nat := (first ||| second) ^^^ second

/-- The positions after a character of a word. -/
def afterWord (subject : Subject) (ascii : Bool) : Nat :=
  subject.after (if ascii then Text.Property.asciiWord else Text.Property.word)

/-- The positions before a character of a word. -/
def beforeWord (subject : Subject) (ascii : Bool) : Nat :=
  subject.before (if ascii then Text.Property.asciiWord else Text.Property.word)

/-- The positions at which lines begin.  Between a carriage return and a line feed there is no
beginning where both together end a line. -/
def lineStarts (subject : Subject) (carriageReturns : Bool) : Nat :=
  let feeds := subject.after (.single '\n')
  if carriageReturns then
    subject.start ||| feeds |||
      less (subject.after (.single '\x0D')) (subject.before (.single '\n'))
  else subject.start ||| feeds

/-- The positions at which lines end. -/
def lineEnds (subject : Subject) (carriageReturns : Bool) : Nat :=
  let feeds := subject.before (.single '\n')
  if carriageReturns then
    subject.stop ||| subject.before (.single '\x0D') |||
      less feeds (subject.after (.single '\x0D'))
  else subject.stop ||| feeds

/-- The positions at which a condition holds. -/
def satisfying (subject : Subject) : Anchor → Nat
  | .textStart => subject.start
  | .textEnd => subject.stop
  | .lineStart carriageReturns => subject.lineStarts carriageReturns
  | .lineEnd carriageReturns => subject.lineEnds carriageReturns
  | .wordBoundary ascii => subject.afterWord ascii ^^^ subject.beforeWord ascii
  | .noWordBoundary ascii =>
    less subject.positions (subject.afterWord ascii ^^^ subject.beforeWord ascii)
  | .wordStart ascii => less (subject.beforeWord ascii) (subject.afterWord ascii)
  | .wordEnd ascii => less (subject.afterWord ascii) (subject.beforeWord ascii)
  | .wordStartHalf ascii => less subject.positions (subject.afterWord ascii)
  | .wordEndHalf ascii => less subject.positions (subject.beforeWord ascii)

end Subject

/-- How an expression leads from positions of one text to others. -/
inductive Moves where
  /-- Stays at the positions of a set. -/
  | stay (positions : Nat)
  /-- Goes on by one from the positions of a set. -/
  | step (positions : Nat)
  | andThen (first second : Moves)
  | orElse (first second : Moves)
  /-- Moves some number of times and then any number of times up to another. -/
  | again (body : Moves) (least more : Nat)
  deriving DecidableEq, Repr

namespace Moves

/-- Moves a number of times. -/
def times (move : Nat → Nat) : Nat → Nat → Nat
  | 0, positions => positions
  | count + 1, positions => if positions = 0 then 0 else times move count (move positions)

/-- Adds to the positions reached those that are reached by moving on any number of times up to a
bound; only from new positions is there anything new to reach. -/
def spread (move : Nat → Nat) : Nat → Nat → Nat → Nat
  | 0, reached, _ => reached
  | count + 1, reached, fresh =>
    let next := Subject.less (move fresh) reached
    if next = 0 then reached else spread move count (reached ||| next) next

/-- The positions reached from a set of positions. -/
def apply : Moves → Nat → Nat
  | stay kept, positions => positions &&& kept
  | step left, positions => (positions &&& left) <<< 1
  | andThen first second, positions =>
    let between := first.apply positions
    if between = 0 then 0 else second.apply between
  | orElse first second, positions => first.apply positions ||| second.apply positions
  | again body least more, positions =>
    let reached := times body.apply least positions
    spread body.apply more reached reached

end Moves

namespace Expression

/-- How an expression leads from one position of a text to others.  A repetition that moves on does
so at most once for every character, and further repetitions only stay. -/
def moves (subject : Subject) : Expression → Moves
  | empty => .stay subject.positions
  | anchor condition => .stay (subject.satisfying condition)
  | word letters =>
    letters.foldr (fun c rest => .andThen (.step (subject.before (.single c))) rest)
      (.stay subject.positions)
  | oneOf members => .step (subject.before members)
  | repeated body least most _ =>
    let bound := subject.length + 1
    .again (body.moves subject) (min least bound)
      (match most with
        | some most => min (most - least) bound
        | none => bound)
  | group _ body => body.moves subject
  | concat first rest => .andThen (first.moves subject) (rest.moves subject)
  | either first rest => .orElse (first.moves subject) (rest.moves subject)

/-- Whether an expression matches some part of a text. -/
def occursIn (expression : Expression) (text : String) : Bool :=
  let subject := Subject.ofChars text.toList
  (expression.moves subject).apply subject.positions != 0

end Expression
end Pattern
end JavaTypes
