import JavaTypes.Pattern.Expression
import JavaTypes.Text.Utf8
import Std.Data.HashMap

/-!
# The size of a pattern's machine

A pattern is run by a machine that reads a text byte by byte, forward or backward.  Its states are
laid out part by part, counted repetitions as often as they are counted, and a pattern whose machine
takes too much room is refused.  Here machines are laid out only as far as their size depends on it:
states have numbers, since equal states of a class share one state as far as a table with a fixed
number of places remembers them.
-/

namespace JavaTypes
namespace Pattern

open Text (ByteRange CodeSet)

/-- The direction in which a machine reads. -/
inductive Direction where
  | forward
  | backward
  deriving DecidableEq, Repr

/-- The room that the states laid out so far take. -/
structure Extent where
  states : Nat := 0
  /-- Bytes beyond those that every state takes. -/
  extra : Nat := 0
  deriving DecidableEq, Repr

namespace Extent

/-- The bytes of a state. -/
def stateSize : Nat := 32

/-- The bytes of a range of bytes that a state tells apart from others. -/
def rangeSize : Nat := 8

/-- The bytes of a link from a fork. -/
def linkSize : Nat := 4

/-- The greatest number of bytes of a machine. -/
def maxSize : Nat := 10 * 1048576

/-- All bytes. -/
def size (extent : Extent) : Nat := stateSize * extent.states + extent.extra

/-- An extent unless it is too large. -/
def within? (extent : Extent) : Option Extent :=
  if extent.size ≤ maxSize then some extent else none

/-- Adds states, with bytes beyond those that every state takes. -/
def add? (extent : Extent) (states extra : Nat) : Option Extent :=
  within? { states := extent.states + states, extra := extent.extra + extra }

end Extent

/-- The extent after a part has been laid out. -/
structure Laid where
  extent : Extent
  /-- Whether the part ends in a fork, where a link to what follows takes room. -/
  forks : Bool := false
  deriving DecidableEq, Repr

namespace Laid

/-- The extent with a link from the end of the part. -/
def linked (laid : Laid) : Extent :=
  if laid.forks then { laid.extent with extra := laid.extent.extra + Extent.linkSize }
  else laid.extent

end Laid

/-- The place of some numbers in a table with a given number of places. -/
def tablePlace (places : Nat) (numbers : List Nat) : Nat :=
  (numbers.foldl (fun hash number => (hash ^^^ number.toUInt64) * 1099511628211)
    (14695981039346656037 : UInt64)).toNat % places

/-- A state that tells ranges of bytes apart: where each of them leads. -/
abbrev Crossing := List (ByteRange × Nat)

/-- The states of a class that are remembered, by their places. -/
structure Crossings where
  places : Std.HashMap Nat (Crossing × Nat) := {}
  extent : Extent

namespace Crossings

/-- The number of places. -/
def size : Nat := 10000

/-- The number of a state: a remembered one, or a new one that takes its place. -/
def number? (crossings : Crossings) (crossing : Crossing) : Option (Nat × Crossings) :=
  let place := tablePlace size (crossing.flatMap fun (range, next) =>
    [range.first.toNat, range.last.toNat, next])
  match crossings.places[place]?.filter fun (remembered, _) => remembered == crossing with
  | some (_, number) => some (number, crossings)
  | none =>
    (crossings.extent.add? 1 (Extent.rangeSize * crossing.length)).map fun extent =>
      (crossings.extent.states,
        { places := crossings.places.insert place (crossing, crossings.extent.states), extent })

/-- Lays out the state that tells apart the first bytes of some encodings and, before it, the states
to which they lead.  All encodings end in the state `target`; the retained fuel is the number of
bytes of the longest. -/
def branch? (target : Nat) :
    Nat → Crossings → List (List ByteRange) → Option (Nat × Crossings)
  | 0, _, _ => none
  | fuel + 1, crossings, encodings => do
    let grouped := encodings.splitBy fun left right => left.head? == right.head?
    let (crossing, crossings) ← grouped.foldlM
      (fun (crossing, crossings) group =>
        match group with
        | (range :: []) :: _ => some ((range, target) :: crossing, crossings)
        | (range :: _) :: _ => do
          let (next, crossings) ← branch? target fuel crossings (group.map List.tail)
          some ((range, next) :: crossing, crossings)
        | _ => none)
      (([] : Crossing), crossings)
    crossings.number? crossing.reverse

end Crossings

/-- The states of a class that are remembered where it is read backward: a range of bytes and what
it leads to. -/
structure BackwardCrossings where
  places : Std.HashMap Nat ((ByteRange × Nat) × Nat) := {}
  extent : Extent

namespace BackwardCrossings

/-- The number of places. -/
def size : Nat := 1000

/-- The number of the state for a range that leads to a given state. -/
def number? (crossings : BackwardCrossings) (next : Nat) (range : ByteRange) :
    Option (Nat × BackwardCrossings) :=
  let place := tablePlace size [next, range.first.toNat, range.last.toNat]
  match crossings.places[place]?.filter fun (remembered, _) => remembered == (range, next) with
  | some (_, number) => some (number, crossings)
  | none =>
    (crossings.extent.add? 1 0).map fun extent =>
      (crossings.extent.states,
        { places := crossings.places.insert place ((range, next), crossings.extent.states),
          extent })

/-- Lays out one encoding, its first byte next to the end, with a link from the fork between all
encodings. -/
def encoding? (target : Nat) (crossings : BackwardCrossings) (encoding : List ByteRange) :
    Option BackwardCrossings := do
  let (_, crossings) ← encoding.foldlM
    (fun (next, crossings) range => number? crossings next range) (target, crossings)
  let extent ← crossings.extent.add? 0 Extent.linkSize
  some { crossings with extent }

end BackwardCrossings

/-- Lays out a class. -/
def layClass? (direction : Direction) (members : CodeSet) (extent : Extent) : Option Extent :=
  if members.isAscii then extent.add? 2 (Extent.rangeSize * members.intervals.length)
  else
    match direction with
    | .forward => do
      let target := extent.states
      let extent ← extent.add? 1 0
      let (_, crossings) ← Crossings.branch? target 4 { extent } members.byteRanges
      some crossings.extent
    | .backward => do
      let extent ← extent.add? 2 0
      let crossings ← members.byteRanges.foldlM
        (BackwardCrossings.encoding? (extent.states - 1)) { extent }
      some crossings.extent

/-- Divides a list of words, some of them used up, into runs of words that are not, and counts the
ends between the runs.  Ends before every run count once. -/
def runsOfWords : List (List UInt8) → Nat × List (List (List UInt8))
  | [] => (0, [[]])
  | [] :: rest =>
    match runsOfWords rest with
    | (ends, runs) => (ends + 1, [] :: runs)
  | word :: rest =>
    match runsOfWords rest with
    | (ends, run :: runs) => (ends, (word :: run) :: runs)
    | (ends, []) => (ends, [[word]])

/-- The words that continue after each of the bytes that some words begin with. -/
def continuations (words : List (List UInt8)) : List (List (List UInt8)) :=
  (words.filterMap List.head?).eraseDups.map fun byte =>
    (words.filter fun word => word.head? == some byte).map List.tail

/-- Adds the states that tell apart several words, an earlier one being preferred to a longer one.
The retained fuel is one more than the number of bytes of the longest. -/
def layWords (extent : Extent) : Nat → List (List UInt8) → Extent
  | 0, _ => extent
  | fuel + 1, words =>
    if words.all List.isEmpty then extent
    else
      match runsOfWords (if words.head? == some [] then [] :: words.dropWhile List.isEmpty
        else words) with
      | (ends, runs) =>
        runs.foldl
          (fun extent run =>
            if run.isEmpty then extent
            else
              let next := continuations run
              let extent := next.foldl (fun extent words => layWords extent fuel words) extent
              { states := extent.states + 1
                extra := extent.extra + Extent.linkSize +
                  (if next.length = 1 then 0 else Extent.rangeSize * next.length) })
          { states := extent.states + 1, extra := extent.extra + Extent.linkSize * ends }

/-- The words of a choice between words only. -/
def words? : Expression → Option (List (List Char))
  | .either (.word letters) rest => (words? rest).map (letters :: ·)
  | .word letters => some [letters]
  | _ => none

/-- Lays out a part several times more, each time after what is there. -/
def layAgain? (lay : Extent → Option Laid) : Nat → Laid → Option Laid
  | 0, laid => some laid
  | times + 1, laid =>
    match lay laid.linked with
    | some next => layAgain? lay times next
    | none => none

/-- Lays out a part a number of times; not at all takes one state. -/
def layTimes? (lay : Extent → Option Laid) (times : Nat) (extent : Extent) : Option Laid :=
  match times with
  | 0 => (extent.add? 1 0).map fun extent => { extent }
  | more + 1 =>
    match lay extent with
    | some laid => layAgain? lay more laid
    | none => none

/-- Lays out a part several times more, with a fork before each that passes all of them by. -/
def layOptions? (lay : Extent → Option Laid) : Nat → Laid → Option Laid
  | 0, laid => some laid
  | times + 1, laid =>
    match (laid.linked.add? 1 (2 * Extent.linkSize)).bind lay with
    | some next => layOptions? lay times next
    | none => none

/-- Lays out a repetition of a part, which may or may not match without reading. -/
def layRepetition? (lay : Extent → Option Laid) (reads : Bool) (least : Nat) (most : Option Nat)
    (extent : Extent) : Option Laid :=
  match least, most with
  | 0, some 1 => do
    let laid ← lay (← extent.add? 1 (2 * Extent.linkSize))
    some { extent := ← laid.linked.add? 1 0 }
  | _, some most =>
    if least = most then layTimes? lay least extent
    else do
      let laid ← layTimes? lay least extent
      let extent ← laid.extent.add? 1 0
      let laid ← layOptions? lay (most - least) { laid with extent }
      some { extent := laid.linked }
  | 0, none =>
    if reads then do
      let laid ← lay (← extent.add? 1 Extent.linkSize)
      some { extent := laid.linked, forks := true }
    else do
      let laid ← lay extent
      some { extent := ← laid.linked.add? 3 (4 * Extent.linkSize) }
  | _, none => do
    let laid ← layTimes? lay least extent
    some { extent := ← laid.linked.add? 1 Extent.linkSize, forks := true }

/-- Links an alternative to the fork before the choice and to its end, which come after the second
alternative.  `earlier` is the number of alternatives before it. -/
def layJoint? (earlier : Nat) (laid : Laid) : Option Extent :=
  laid.linked.add? (if earlier = 1 then 2 else 0) Extent.linkSize

/-- Completes the last alternative of a choice; what stands alone is complete. -/
def closeChoice? (earlier : Nat) (laid : Laid) : Option Laid :=
  if earlier = 0 then some laid else (layJoint? earlier laid).map fun extent => { extent }

/-- Lays out an expression that is not a choice, or an alternative with those after it; `earlier` is
the number of alternatives before it. -/
def lay? (direction : Direction) : Expression → Nat → Extent → Option Laid
  | .empty, earlier, extent => do closeChoice? earlier { extent := ← extent.add? 1 0 }
  | .anchor _, earlier, extent => do closeChoice? earlier { extent := ← extent.add? 1 0 }
  | .word letters, earlier, extent => do
    closeChoice? earlier { extent := ← extent.add? (Expression.wordSize letters) 0 }
  | .oneOf members, earlier, extent => do
    closeChoice? earlier { extent := ← layClass? direction members extent }
  | .repeated body least most _, earlier, extent => do
    let reads := body.leastSize?.any (0 < ·)
    closeChoice? earlier
      (← layRepetition? (lay? direction body 0) reads least most extent)
  | .group _ body, earlier, extent =>
    match direction with
    | .forward => do
      let laid ← lay? .forward body 0 (← extent.add? 1 0)
      closeChoice? earlier { extent := ← laid.linked.add? 1 0 }
    | .backward => do closeChoice? earlier (← lay? .backward body 0 extent)
  | .concat first rest, earlier, extent =>
    match direction with
    | .forward => do
      let laid ← lay? .forward first 0 extent
      closeChoice? earlier (← lay? .forward rest 0 laid.linked)
    | .backward => do
      let laid ← lay? .backward rest 0 extent
      closeChoice? earlier (← lay? .backward first 0 laid.linked)
  | .either first rest, earlier, extent =>
    match (if earlier = 0 then words? (.either first rest) else none) with
    | some words => do
      let bytes := words.map fun letters =>
        let bytes := letters.flatMap String.utf8EncodeChar
        match direction with
        | .forward => bytes
        | .backward => bytes.reverse
      let longest := (bytes.map List.length).foldl max 0
      some { extent := ← (layWords (← extent.add? 1 0) (longest + 1) bytes).within? }
    | none => do
      let laid ← lay? direction first 0 extent
      lay? direction rest (earlier + 1) (← layJoint? earlier laid)

/-- Lays out the machine for an expression, which looks for a match everywhere unless all matches
are at the end of the text that it starts from. -/
def layMachine? (direction : Direction) (expression : Expression) : Option Extent := do
  match direction with
  | .forward =>
    let extent : Extent ←
      if expression.startsAtTextStart then Extent.add? {} 1 0
      else Extent.add? {} 3 (Extent.rangeSize + 2 * Extent.linkSize)
    let laid ← lay? .forward expression 0 (← extent.add? 1 0)
    laid.linked.add? 2 0
  | .backward =>
    let extent : Extent ←
      if expression.endsAtTextEnd then Extent.add? {} 1 0
      else Extent.add? {} 3 (Extent.rangeSize + 2 * Extent.linkSize)
    let laid ← lay? .backward expression 0 extent
    laid.linked.add? 1 0

namespace Expression

/-- Whether the machines for both directions keep within the bound on their size. -/
def fits (expression : Expression) : Bool :=
  (layMachine? .forward expression).isSome && (layMachine? .backward expression).isSome

end Expression
end Pattern
end JavaTypes
