/-!
# Sets of code points

A set of code points of characters is kept as its maximal intervals in ascending order.  Every set
is built by `ofIntervals` or by an operation on sets, all of which keep that form; surrogates, which
are no characters, belong to none.
-/

namespace JavaTypes
namespace Text

/-- The largest code point. -/
def maxCode : Nat := 0x10FFFF

/-- Code points from the first to the last. -/
structure Interval where
  first : Nat
  last : Nat
  deriving DecidableEq, Repr

/-- Code points from the first to the last at a fixed distance. -/
structure Run where
  first : Nat
  last : Nat
  stride : Nat
  deriving DecidableEq, Repr

namespace Interval

/-- The code points that are no characters. -/
def surrogates : Interval := ⟨0xD800, 0xDFFF⟩

/-- Intervals in ascending order with those that overlap or touch made one; the current one may
still grow. -/
def join (current : Interval) : List Interval → List Interval
  | [] => [current]
  | next :: rest =>
    if next.first ≤ current.last + 1 then join ⟨current.first, max current.last next.last⟩ rest
    else current :: join next rest

/-- Intervals in ascending order of their beginnings, as maximal intervals. -/
def joined : List Interval → List Interval
  | [] => []
  | first :: rest => join first rest

/-- What maximal intervals leave out from a code point on. -/
def gaps (start : Nat) : List Interval → List Interval
  | [] => if start ≤ maxCode then [⟨start, maxCode⟩] else []
  | next :: rest =>
    if start < next.first then ⟨start, next.first - 1⟩ :: gaps (next.last + 1) rest
    else gaps (next.last + 1) rest

/-- Puts an interval before the first of a list that does not begin before it, and has the rest of
the list continued from there. -/
def place (interval : Interval) (continued : List Interval → List Interval) :
    List Interval → List Interval
  | [] => interval :: continued []
  | next :: rest =>
    if interval.first ≤ next.first then interval :: continued (next :: rest)
    else next :: place interval continued rest

/-- Two lists in ascending order as one. -/
def merge (left : List Interval) : List Interval → List Interval := left.foldr place id

/-- A list in ascending order. -/
def sorted (intervals : List Interval) : List Interval :=
  intervals.foldr (fun interval rest => place interval id rest) []

end Interval

namespace Run

/-- The code points of a run. -/
def codes (run : Run) : List Nat :=
  (List.range ((run.last - run.first) / run.stride + 1)).map fun step =>
    run.first + step * run.stride

/-- The code points of a run as intervals. -/
def intervals (run : Run) : List Interval :=
  if run.stride = 1 then [⟨run.first, run.last⟩]
  else run.codes.map fun code => ⟨code, code⟩

end Run

/-- A set of code points of characters. -/
structure CodeSet where
  /-- The maximal intervals of the set, ascending. -/
  intervals : List Interval
  deriving DecidableEq, Repr

namespace CodeSet

/-- The set without members. -/
def empty : CodeSet := ⟨[]⟩

/-- Whether a set has no members. -/
def isEmpty (set : CodeSet) : Bool := set.intervals.isEmpty

/-- The characters outside of a set. -/
def complement (set : CodeSet) : CodeSet :=
  ⟨Interval.gaps 0 (Interval.joined (Interval.merge set.intervals [Interval.surrogates]))⟩

/-- The set of all characters. -/
def all : CodeSet := complement empty

/-- The members of either of two sets. -/
def union (left right : CodeSet) : CodeSet :=
  ⟨Interval.joined (Interval.merge left.intervals right.intervals)⟩

/-- The common members of two sets. -/
def inter (left right : CodeSet) : CodeSet :=
  complement (union (complement left) (complement right))

/-- The members of the first set that the second lacks. -/
def diff (left right : CodeSet) : CodeSet := complement (union (complement left) right)

/-- The members of one set only. -/
def symmetricDiff (left right : CodeSet) : CodeSet := diff (union left right) (inter left right)

/-- The members of any of several sets. -/
def unions (sets : List CodeSet) : CodeSet := sets.foldl union empty

/-- The characters in any of several intervals, in whatever order.  An interval that ends before it
begins is empty. -/
def ofIntervals (intervals : List Interval) : CodeSet :=
  let proper := intervals.filter fun interval => interval.first ≤ interval.last
  complement ⟨Interval.gaps 0 (Interval.joined (Interval.sorted proper))⟩

/-- The characters in any of several runs. -/
def ofRuns (runs : List Run) : CodeSet := ofIntervals (runs.flatMap Run.intervals)

/-- The characters between two code points. -/
def range (first last : Nat) : CodeSet := ofIntervals [⟨first, last⟩]

/-- The set of one character. -/
def single (c : Char) : CodeSet := ⟨[⟨c.toNat, c.toNat⟩]⟩

/-- The characters with code points of a list. -/
def ofCodes (codes : List Nat) : CodeSet := ofIntervals (codes.map fun code => ⟨code, code⟩)

/-- The characters of a list. -/
def ofChars (chars : List Char) : CodeSet := ofCodes (chars.map Char.toNat)

/-- Whether a code point lies in one of several ascending intervals. -/
def inSome (code : Nat) : List Interval → Bool
  | [] => false
  | interval :: rest =>
    if code < interval.first then false
    else if code ≤ interval.last then true
    else inSome code rest

/-- Whether a character belongs to a set. -/
def contains (set : CodeSet) (c : Char) : Bool := inSome c.toNat set.intervals

/-- The only character of a set that has just one. -/
def only? (set : CodeSet) : Option Char :=
  match set.intervals with
  | [interval] => if interval.first = interval.last then some (Char.ofNat interval.first) else none
  | _ => none

/-- Whether all members are in the range of ASCII. -/
def isAscii (set : CodeSet) : Bool := set.intervals.all fun interval => interval.last ≤ 0x7F

example : (ofIntervals [⟨5, 3⟩, ⟨66, 67⟩, ⟨65, 65⟩]).intervals = [⟨65, 67⟩] := by decide

example : all.intervals = [⟨0, 0xD7FF⟩, ⟨0xE000, 0x10FFFF⟩] := by decide

end CodeSet
end Text
end JavaTypes
