import JavaTypes.Pattern.Expression
import JavaTypes.Pattern.Tree

/-!
# What a pattern means

The regular expression that a pattern stands for.  Flags hold from where they stand to the end of
the group around them, the alternatives after them included.
-/

namespace JavaTypes
namespace Pattern

open Text (CodeSet)

namespace Modes

/-- The condition that a place stands for. -/
def anchor (modes : Modes) : Place → Anchor
  | .lineStart => if modes.byLines then .lineStart modes.carriageReturns else .textStart
  | .lineEnd => if modes.byLines then .lineEnd modes.carriageReturns else .textEnd
  | .textStart => .textStart
  | .textEnd => .textEnd
  | .word .boundary => .wordBoundary !modes.unicode
  | .word .noBoundary => .noWordBoundary !modes.unicode
  | .word .start => .wordStart !modes.unicode
  | .word .finish => .wordEnd !modes.unicode
  | .word .startHalf => .wordStartHalf !modes.unicode
  | .word .finishHalf => .wordEndHalf !modes.unicode

/-- The expression for one letter.  A byte outside of ASCII is no character where characters are
those of ASCII, and other letters have no case there. -/
def letter? (modes : Modes) (letter : Letter) : Option Expression :=
  if modes.unicode || letter.char ≤ '\x7F' then
    some (.ofSet (modes.fold (.single letter.char)))
  else if letter.isByte then none
  else some (.word [letter.char])

/-- The expression for the dot.  Where characters are those of ASCII it is refused, since it would
match parts of other characters. -/
def dot? (modes : Modes) : Option Expression :=
  if !modes.unicode then none
  else if modes.dotAll then some (.oneOf .all)
  else if modes.carriageReturns then some (.oneOf (CodeSet.ofChars ['\n', '\x0D']).complement)
  else some (.oneOf (CodeSet.single '\n').complement)

end Modes

namespace Tree

/-- The alternatives that a part of a pattern stands for, and the modes after it. -/
def meanings? : Tree → Modes → Option (List Expression × Modes)
  | empty, modes => some ([.empty], modes)
  | flags changes, modes => some ([.empty], modes.changed changes)
  | letter written, modes => (modes.letter? written).map fun one => ([one], modes)
  | dot, modes => modes.dot?.map fun one => ([one], modes)
  | place written, modes => some ([.anchor (modes.anchor written)], modes)
  | oneOf members, modes => (members.members? modes).map fun set => ([.ofSet set], modes)
  | repeated body least most short, modes => do
    let (alternatives, modes) ← meanings? body modes
    some ([.repetition (.anyOf alternatives) least most (short != modes.prefersShort)], modes)
  | group (.numbered number) body, modes => do
    let (alternatives, _) ← meanings? body modes
    some ([.group number (.anyOf alternatives)], modes)
  | group (.plain changes) body, modes => do
    let (alternatives, _) ← meanings? body (modes.changed changes)
    some ([.anyOf alternatives], modes)
  | sequence first rest, modes => do
    let (before, modes) ← meanings? first modes
    let (after, modes) ← meanings? rest modes
    some ([.append (.anyOf before) (.anyOf after)], modes)
  | choice first rest, modes => do
    let (before, modes) ← meanings? first modes
    let (after, modes) ← meanings? rest modes
    some (before ++ after, modes)

/-- The expression that a pattern stands for.  Classes with members that they must not have make
it meaningless. -/
def expression? (tree : Tree) : Option Expression :=
  (tree.meanings? {}).map fun (alternatives, _) => .anyOf alternatives

end Tree
end Pattern
end JavaTypes
