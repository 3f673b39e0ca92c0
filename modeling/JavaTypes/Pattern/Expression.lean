import JavaTypes.Text.CodeSet

/-!
# Regular expressions

What a pattern matches, in a simplified form: sequences and choices are flat, neighbouring letters
make one word, choices between single characters are classes, and what all alternatives begin with
stands before the choice.  Expressions are built by `sequence`, `anyOf`, `repetition` and `ofSet`,
which keep that form.
-/

namespace JavaTypes
namespace Pattern

open Text (CodeSet)

/-- A condition on a position between the characters of a text. -/
inductive Anchor where
  | textStart
  | textEnd
  /-- The beginning of a line, which may end with a carriage return too. -/
  | lineStart (carriageReturns : Bool)
  | lineEnd (carriageReturns : Bool)
  /-- Between a character of a word and something else.  Words may be those of ASCII only. -/
  | wordBoundary (ascii : Bool)
  | noWordBoundary (ascii : Bool)
  | wordStart (ascii : Bool)
  | wordEnd (ascii : Bool)
  /-- After anything but a character of a word. -/
  | wordStartHalf (ascii : Bool)
  /-- Before anything but a character of a word. -/
  | wordEndHalf (ascii : Bool)
  deriving DecidableEq, Repr

/-- A regular expression. -/
inductive Expression where
  | empty
  | anchor (condition : Anchor)
  /-- Some characters, one after the other; there is at least one. -/
  | word (letters : List Char)
  /-- One character of a set. -/
  | oneOf (members : CodeSet)
  /-- At least some number of times and, if there is a second number, at most so many times;
  which number is preferred does not change whether there is a match. -/
  | repeated (body : Expression) (least : Nat) (most : Option Nat) (short : Bool)
  /-- A counted group. -/
  | group (number : Nat) (body : Expression)
  /-- A part and the parts after it. -/
  | concat (first rest : Expression)
  /-- An alternative and the alternatives after it. -/
  | either (first rest : Expression)
  deriving DecidableEq, Repr

namespace Expression

/-- The expression without matches. -/
def fail : Expression := oneOf .empty

/-- The expression that matches one character of a set. -/
def ofSet (members : CodeSet) : Expression :=
  match members.only? with
  | some c => word [c]
  | none => oneOf members

/-- One expression after another. -/
def append : Expression → Expression → Expression
  | empty, second => second
  | concat first rest, second => concat first (append rest second)
  | word letters, empty => word letters
  | word letters, word more => word (letters ++ more)
  | word letters, concat (word more) rest => concat (word (letters ++ more)) rest
  | first, empty => first
  | first, second => concat first second

/-- Several expressions, one after the other. -/
def sequence (parts : List Expression) : Expression := parts.foldr append empty

/-- The parts of a sequence. -/
def parts : Expression → List Expression
  | concat first rest => first :: rest.parts
  | only => [only]

/-- The alternatives of a choice. -/
def alternatives : Expression → List Expression
  | either first rest => first :: rest.alternatives
  | only => [only]

/-- The set of the character that an expression stands for. -/
def character? : Expression → Option CodeSet
  | word [c] => some (.single c)
  | _ => none

/-- The set of characters that an expression stands for. -/
def members? : Expression → Option CodeSet
  | oneOf members => some members
  | _ => none

/-- The parts of an expression that is a sequence. -/
def sequenceParts? : Expression → Option (List Expression)
  | concat first rest => some (first :: rest.parts)
  | _ => none

/-- What two lists have in common from the beginning on. -/
def shared : List Expression → List Expression → List Expression
  | first :: rest, second :: others => if first = second then first :: shared rest others else []
  | _, _ => []

/-- A choice between alternatives, none of which is a choice, as one set of characters if they all
are characters or all are sets. -/
def choice (alternatives : List Expression) : Expression :=
  match alternatives with
  | [] => fail
  | [only] => only
  | first :: rest =>
    match alternatives.mapM character?, alternatives.mapM members? with
    | some sets, _ | none, some sets => ofSet (.unions sets)
    | none, none => (first :: rest).dropLast.foldr either ((first :: rest).getLast (by simp))

/-- A choice between alternatives, any of which may be a choice. -/
def flatChoice (alternatives : List Expression) : Expression :=
  choice (alternatives.flatMap Expression.alternatives)

/-- What several sequences begin with. -/
def commonStart : List (List Expression) → List Expression
  | [] => []
  | first :: rest => rest.foldl shared first

/-- A choice between alternatives.  If all of them are sequences that begin alike, the choice is
between what remains of them. -/
def anyOf (alternatives : List Expression) : Expression :=
  match alternatives with
  | [only] => only
  | several =>
    let flat := several.flatMap Expression.alternatives
    match flat.mapM sequenceParts? with
    | none => choice flat
    | some sequences =>
      let start := commonStart sequences
      if start.isEmpty then choice flat
      else
        let rests := sequences.map fun parts => sequence (parts.drop start.length)
        sequence (start ++ [flatChoice rests])

/-- The number of bytes of a character with a given code point. -/
def codeSize (code : Nat) : Nat := (Char.ofNat code).utf8Size

/-- The number of bytes of a word. -/
def wordSize (letters : List Char) : Nat := (String.ofList letters).utf8ByteSize

/-- The least number of bytes of a match, if there can be one. -/
def leastSize? : Expression → Option Nat
  | empty | anchor _ => some 0
  | word letters => some (wordSize letters)
  | oneOf members => members.intervals.head?.map fun interval => codeSize interval.first
  | repeated body least _ _ => body.leastSize?.map (· * least)
  | group _ body => body.leastSize?
  | concat first rest => do some ((← first.leastSize?) + (← rest.leastSize?))
  | either first rest => do some (min (← first.leastSize?) (← rest.leastSize?))

/-- The greatest number of bytes of a match, if there can be one and there is a bound. -/
def greatestSize? : Expression → Option Nat
  | empty | anchor _ => some 0
  | word letters => some (wordSize letters)
  | oneOf members => members.intervals.getLast?.map fun interval => codeSize interval.last
  | repeated body _ most _ => do some ((← most) * (← body.greatestSize?))
  | group _ body => body.greatestSize?
  | concat first rest => do some ((← first.greatestSize?) + (← rest.greatestSize?))
  | either first rest => do some (max (← first.greatestSize?) (← rest.greatestSize?))

/-- A repetition.  What matches no character is repeated at most once; no repetition at all is
nothing, and a single one is the body. -/
def repetition (body : Expression) (least : Nat) (most : Option Nat) (short : Bool) : Expression :=
  let isNarrow := body.greatestSize? == some 0
  let least := if isNarrow then min least 1 else least
  let most := if isNarrow then some (min (most.getD 1) 1) else most
  if least = 0 && most = some 0 then empty
  else if least = 1 && most = some 1 then body
  else repeated body least most short

/-- Whether every match begins at the start of the text. -/
def startsAtTextStart : Expression → Bool
  | anchor condition => condition == .textStart
  | repeated body least _ _ => 0 < least && body.startsAtTextStart
  | group _ body => body.startsAtTextStart
  | concat first rest =>
    first.startsAtTextStart || (first.greatestSize? == some 0 && rest.startsAtTextStart)
  | either first rest => first.startsAtTextStart && rest.startsAtTextStart
  | _ => false

/-- Whether every match ends at the end of the text. -/
def endsAtTextEnd : Expression → Bool
  | anchor condition => condition == .textEnd
  | repeated body least _ _ => 0 < least && body.endsAtTextEnd
  | group _ body => body.endsAtTextEnd
  | concat first rest =>
    rest.endsAtTextEnd || (rest.greatestSize? == some 0 && first.endsAtTextEnd)
  | either first rest => first.endsAtTextEnd && rest.endsAtTextEnd
  | _ => false

end Expression
end Pattern
end JavaTypes
