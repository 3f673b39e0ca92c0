import JavaTypes.Pattern.CharClass

/-!
# What a pattern says

The parts of a pattern as they are written: repetitions, groups, sequences and alternatives of
letters, classes and places.  What they match depends on the modes and is said elsewhere.
-/

namespace JavaTypes
namespace Pattern

/-- The sides of a word. -/
inductive Edge where
  /-- Between a character of a word and something else. -/
  | boundary
  | noBoundary
  | start
  | finish
  /-- After anything but a character of a word. -/
  | startHalf
  /-- Before anything but a character of a word. -/
  | finishHalf
  deriving DecidableEq, Repr

/-- A condition on a place in the text, as it is written. -/
inductive Place where
  | lineStart
  | lineEnd
  | textStart
  | textEnd
  | word (edge : Edge)
  deriving DecidableEq, Repr

/-- What the parentheses around a group do. -/
inductive GroupKind where
  /-- They are counted from one on. -/
  | numbered (number : Nat)
  /-- They change modes within the group. -/
  | plain (changes : List ModeChange)
  deriving DecidableEq, Repr

/-- A pattern or a part of one. -/
inductive Tree where
  | empty
  /-- Flags for the rest of the group. -/
  | flags (changes : List ModeChange)
  | letter (letter : Letter)
  | dot
  | place (place : Place)
  | oneOf (members : CharClass)
  /-- At least some number of times and, if there is a second number, at most so many times. -/
  | repeated (body : Tree) (least : Nat) (most : Option Nat) (short : Bool)
  | group (kind : GroupKind) (body : Tree)
  /-- A part and the parts after it. -/
  | sequence (first rest : Tree)
  /-- An alternative and the alternatives after it. -/
  | choice (first rest : Tree)
  deriving DecidableEq, Repr

namespace Tree

/-- How deeply a pattern nests groups, alternatives, sequences, repetitions and the levels of
classes.  Neighbours in a sequence are on one level, and so are alternatives. -/
def nesting : Tree → Nat
  | oneOf members => members.nesting
  | repeated body _ _ _ => body.nesting + 1
  | group _ body => body.nesting + 1
  | sequence first rest =>
    max (first.nesting + 1) (match rest with
      | sequence _ _ => rest.nesting
      | _ => rest.nesting + 1)
  | choice first rest =>
    max (first.nesting + 1) (match rest with
      | choice _ _ => rest.nesting
      | _ => rest.nesting + 1)
  | _ => 0

/-- The deepest nesting that is accepted. -/
def maxNesting : Nat := 250

/-- The sequence of several parts, which come last first. -/
def ofParts : List Tree → Tree
  | [] => empty
  | last :: before => before.foldl (fun rest part => sequence part rest) last

/-- The choice between several alternatives, which come last first. -/
def ofAlternatives : List Tree → Tree
  | [] => empty
  | last :: before => before.foldl (fun rest first => choice first rest) last

/-- Whether a part may be repeated: there has to be one, and flags are none. -/
def isRepeatable : Tree → Bool
  | empty | flags _ => false
  | _ => true

end Tree
end Pattern
end JavaTypes
