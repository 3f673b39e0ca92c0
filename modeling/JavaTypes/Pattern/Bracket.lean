import JavaTypes.Pattern.Escape

/-!
# Classes in brackets

A class goes from an opening bracket to the closing one.  Its members are read one after the other;
brackets within it and the left sides of its operations wait until what they enclose is complete.
-/

namespace JavaTypes
namespace Pattern

/-- What has been read of a class in brackets. -/
structure Bracket where
  negated : Bool
  /-- The operation whose left side is complete. -/
  pending : Option (SetOperation × CharClass) := none
  /-- The members read so far, the last first. -/
  members : List CharClass
  deriving DecidableEq, Repr

namespace Bracket

/-- The side of an operation that has been read, joined to the sides before it. -/
def joined (bracket : Bracket) : CharClass :=
  match bracket.pending with
  | some (operation, left) => .operation operation left (.ofMembers bracket.members)
  | none => .ofMembers bracket.members

/-- The class whose closing bracket has been read. -/
def close (bracket : Bracket) : CharClass := .bracket bracket.joined bracket.negated

/-- Adds a member. -/
def add (bracket : Bracket) (member : CharClass) : Bracket :=
  { bracket with members := member :: bracket.members }

/-- Begins the right side of an operation. -/
def operate (bracket : Bracket) (operation : SetOperation) : Bracket :=
  { bracket with pending := some (operation, bracket.joined), members := [] }

/-- The hyphens that a text starts with, as members of a class, and what follows them. -/
def hyphens (spaced inComment : Bool) (members : List CharClass) :
    List Char → List CharClass × List Char
  | [] => (members, [])
  | c :: rest =>
    if inComment then hyphens spaced (c != '\n') members rest
    else if spaced && c == '#' then hyphens spaced true members rest
    else if spaced && Text.isBlank c then hyphens spaced false members rest
    else if c == '-' then hyphens spaced false (.letter { char := '-' } :: members) rest
    else (members, c :: rest)

/-- What starts with some hyphens.  A closing bracket that comes first stands for itself. -/
def begun (spaced negated : Bool) (members : List CharClass) (text : List Char) :
    Bracket × List Char :=
  match members, text with
  | [], ']' :: rest => ({ negated, members := [.letter { char := ']' }] }, gap spaced rest)
  | _, _ => ({ negated, members }, text)

/-- What starts after an opening bracket and the sign of negation, if there is one.  Hyphens that
come first stand for themselves. -/
def opening (spaced negated : Bool) (text : List Char) : Bracket × List Char :=
  match hyphens spaced false [] text with
  | (members, rest) => begun spaced negated members rest

/-- What an opening bracket starts, and the text after it. -/
def opened (spaced : Bool) (text : List Char) : Bracket × List Char :=
  match gap spaced text with
  | '^' :: rest => opening spaced true rest
  | rest => opening spaced false rest

/-- One member: a character or an escape that does not stand for a place. -/
def member? (spaced : Bool) : List Char → Option (Escape × List Char)
  | [] => none
  | '\\' :: rest => (Escape.read? spaced rest).filter fun (escape, _) => !escape.isPlace
  | c :: rest => some (.letter { char := c }, rest)

/-- The first character that is not blank, or the first such character of the first comment if
that comes before. -/
def ahead (spaced inComment : Bool) : List Char → Option Char
  | [] => none
  | c :: rest =>
    if spaced && Text.isBlank c then ahead spaced inComment rest
    else if spaced && !inComment && c == '#' then ahead spaced true rest
    else some c

/-- Whether a hyphen makes no range, since it comes before the end of the class or before another
hyphen. -/
def isLastHyphen (spaced : Bool) (text : List Char) : Bool :=
  ahead spaced false text == some ']' || ahead spaced false text == some '-'

/-- The member that stands alone. -/
def alone? : Escape → Option CharClass
  | .letter only => some (.letter only)
  | .oneOf members => some members
  | .place _ => none

/-- The range between two members. -/
def between? : Escape → Escape → Option CharClass
  | .letter low, .letter high => if low.char ≤ high.char then some (.range low high) else none
  | _, _ => none

/-- A range that begins with a member, or the member alone, with the text after the member. -/
def rangeFrom? (spaced : Bool) (first : Escape) : List Char → Option (CharClass × List Char)
  | '-' :: more =>
    if isLastHyphen spaced more then (alone? first).map fun only => (only, '-' :: more)
    else do
      let (last, rest) ← member? spaced (gap spaced more)
      (between? first last).map fun range => (range, rest)
  | after => (alone? first).map fun only => (only, after)

/-- One member or a range. -/
def range? (spaced : Bool) (text : List Char) : Option (CharClass × List Char) := do
  let (first, after) ← member? spaced text
  rangeFrom? spaced first (gap spaced after)

/-- The class with a name, up to the colon and the bracket after it. -/
def nameOf? (negated : Bool) (text : List Char) : Option (CharClass × List Char) :=
  match text.dropWhile (· != ':') with
  | ':' :: ']' :: after =>
    (CharClass.ascii? (String.ofList (text.takeWhile (· != ':')))).map fun members =>
      (.named members negated, after)
  | _ => none

/-- A class named within brackets and colons, after its first bracket. -/
def named? : List Char → Option (CharClass × List Char)
  | ':' :: '^' :: text => nameOf? true text
  | ':' :: text => nameOf? false text
  | _ => none

/-- What one round of reading a class comes to. -/
inductive Progress where
  /-- The class is complete. -/
  | complete (members : CharClass)
  /-- Reading goes on within brackets, of which the innermost comes first. -/
  | within (inner : Bracket) (outer : List Bracket)
  deriving DecidableEq, Repr

/-- Reads a class with a name of its own, or opens one. -/
def nested? (spaced : Bool) (inner : Bracket) (outer : List Bracket) (text : List Char) :
    Option (Progress × List Char) :=
  match named? text with
  | some (members, after) => some (.within (inner.add members) outer, after)
  | none =>
    if outer.length < Tree.maxNesting then
      match opened spaced text with
      | (bracket, after) => some (.within bracket (inner :: outer), after)
    else none

/-- Closes the innermost brackets. -/
def closed (inner : Bracket) : List Bracket → Progress
  | [] => .complete inner.close
  | next :: others => .within (next.add inner.close) others

/-- Reads what begins with a character that is not skipped, with the text after it. -/
def round? (spaced : Bool) (inner : Bracket) (outer : List Bracket) (c : Char)
    (rest : List Char) : Option (Progress × List Char) :=
  match c, rest with
  | ']', rest => some (closed inner outer, rest)
  | '&', '&' :: rest => some (.within (inner.operate .inter) outer, rest)
  | '-', '-' :: rest => some (.within (inner.operate .diff) outer, rest)
  | '~', '~' :: rest => some (.within (inner.operate .symmetricDiff) outer, rest)
  | '[', rest => nested? spaced inner outer rest
  | c, rest =>
    (range? spaced (c :: rest)).map fun (member, after) => (.within (inner.add member) outer, after)

/-- Reads a class from within its brackets, of which the innermost comes first.  Every round reads
at least one character, so that the retained fuel need not be more than the length of the text. -/
def readFrom? (spaced : Bool) :
    Nat → Bracket → List Bracket → List Char → Option (CharClass × List Char)
  | 0, _, _, _ => none
  | fuel + 1, inner, outer, text =>
    match gap spaced text with
    | [] => none
    | c :: rest =>
      match round? spaced inner outer c rest with
      | some (.complete members, after) => some (members, after)
      | some (.within inner outer, after) => readFrom? spaced fuel inner outer after
      | none => none

/-- Reads a class after its opening bracket. -/
def read? (spaced : Bool) (text : List Char) : Option (CharClass × List Char) :=
  match opened spaced text with
  | (bracket, rest) => readFrom? spaced (rest.length + 1) bracket [] rest

end Bracket
end Pattern
end JavaTypes
