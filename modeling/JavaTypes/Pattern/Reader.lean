import JavaTypes.Pattern.Bracket
import JavaTypes.Text.NameChar

/-!
# Reading patterns

The notation is the common one for regular expressions: alternatives, groups, repetitions, classes
with set operations, places and inline flags.  Look-around and references to groups are refused.
Reading goes from left to right; groups wait, the innermost first, until what they enclose is read.
-/

namespace JavaTypes
namespace Pattern

/-- What has been read on one level, that is, outside of all groups or within one group. -/
structure Level where
  /-- The complete alternatives, the last first. -/
  alternatives : List Tree := []
  /-- The parts of the current alternative, the last first. -/
  parts : List Tree := []
  deriving DecidableEq, Repr

/-- A group that is not closed yet. -/
structure OpenGroup where
  kind : GroupKind
  /-- What was read before the group on the level around it. -/
  before : Level
  /-- Whether blanks are skipped after the group. -/
  spaced : Bool
  deriving DecidableEq, Repr

/-- The state of reading, apart from the text that is still to be read. -/
structure Reader where
  /-- Whether blanks and comments are skipped. -/
  spaced : Bool := false
  level : Level := {}
  /-- The groups that are open, the innermost first. -/
  groups : List OpenGroup := []
  /-- The number of groups that have been counted. -/
  counted : Nat := 0
  /-- Names of the groups so far. -/
  names : List (List Char) := []
  deriving DecidableEq, Repr

/-- How often a part is repeated. -/
structure Count where
  least : Nat
  most : Option Nat
  /-- Whether a question mark asks for few repetitions. -/
  short : Bool
  deriving DecidableEq, Repr

namespace Level

/-- Adds a part to the current alternative. -/
def add (level : Level) (part : Tree) : Level := { level with parts := part :: level.parts }

/-- Begins a new alternative. -/
def divide (level : Level) : Level :=
  { alternatives := .ofParts level.parts :: level.alternatives }

/-- Everything that has been read on a level. -/
def tree (level : Level) : Tree := .ofAlternatives level.divide.alternatives

end Level

namespace Count

/-- The digits of a decimal number and what follows them. -/
def digits (spaced inComment : Bool) : List Char → List Char × List Char
  | [] => ([], [])
  | c :: rest =>
    if inComment then digits spaced (c != '\n') rest
    else if spaced && c == '#' then digits spaced true rest
    else if spaced && Text.isBlank c then digits spaced false rest
    else if c.isDigit then
      match digits spaced false rest with
      | (more, after) => (c :: more, after)
    else ([], c :: rest)

/-- A decimal number below two to the thirty-second with blanks around it. -/
def number? (spaced : Bool) (text : List Char) : Option (Nat × List Char) :=
  match digits spaced false ((gap spaced text).dropWhile Text.isBlank) with
  | (digits, after) =>
    (Text.readNat? 10 digits).bind fun value =>
      if value < 0x100000000 then some (value, after.dropWhile Text.isBlank) else none

/-- Completes a count by the question mark that may follow it. -/
def complete (least : Nat) (most : Option Nat) (text : List Char) : Count × List Char :=
  match text with
  | '?' :: rest => ({ least, most, short := true }, rest)
  | _ => ({ least, most, short := false }, text)

/-- Completes a count by the closing brace. -/
def closed? (spaced : Bool) (least : Nat) (most : Option Nat) :
    List Char → Option (Count × List Char)
  | '}' :: after => some (complete least most (gap spaced after))
  | _ => none

/-- What follows the comma of a count in braces: the greatest number, if there is one. -/
def bounded? (spaced : Bool) (least : Nat) (text : List Char) : Option (Count × List Char) :=
  match gap spaced text with
  | '}' :: after => some (complete least none (gap spaced after))
  | more => do
    let (most, rest) ← number? spaced more
    if least ≤ most then closed? spaced least (some most) rest else none

/-- What follows the least number: the end of the count, or a comma. -/
def counted? (spaced : Bool) (least : Nat) : List Char → Option (Count × List Char)
  | ',' :: more => bounded? spaced least more
  | rest => closed? spaced least (some least) rest

/-- A count in braces, after the opening brace. -/
def braced? (spaced : Bool) (text : List Char) : Option (Count × List Char) := do
  let (least, rest) ← number? spaced text
  counted? spaced least rest

end Count

/-- Flags up to a colon or a closing parenthesis, whether it is a colon, and the text after it.
Each flag stands at most once, and so does the hyphen before the flags to be cleared.  `seen` holds
what has been read, the last first. -/
def flags? (seen : List Char) : List Char → Option ((List ModeChange × Bool) × List Char)
  | [] => none
  | c :: rest =>
    if c == ':' || c == ')' then
      if seen.head? == some '-' then none else some (([], c == ':'), rest)
    else if seen.contains c then none
    else if c == '-' then flags? (c :: seen) rest
    else
      match Mode.ofLetter? c, flags? (c :: seen) rest with
      | some mode, some ((changes, opens), after) =>
        some (({ mode, value := !seen.contains '-' } :: changes, opens), after)
      | _, _ => none

/-- The value that changes give to the skipping of blanks. -/
def spacedAfter (changes : List ModeChange) (spaced : Bool) : Bool :=
  ((changes.find? fun change => change.mode == .spaced).map (·.value)).getD spaced

/-- Characters that the name of a group may begin with. -/
def beginsGroupName (c : Char) : Bool := c == '_' || Text.NameChar.isLetter c

/-- Characters that may follow in the name of a group. -/
def continuesGroupName (c : Char) : Bool :=
  beginsGroupName c || c == '.' || c == '[' || c == ']' || Text.NameChar.isLetterOrNumber c

/-- Whether a group may have a name. -/
def isGroupName : List Char → Bool
  | [] => false
  | first :: others => beginsGroupName first && others.all continuesGroupName

/-- The name of a group and what follows its closing bracket. -/
def groupName? (text : List Char) : Option (List Char × List Char) :=
  match text.dropWhile (· != '>') with
  | [] => none
  | _ :: after =>
    if isGroupName (text.takeWhile (· != '>')) then some (text.takeWhile (· != '>'), after)
    else none

namespace Reader

/-- Reads a part that has been completed. -/
def add (reader : Reader) (part : Tree) : Reader := { reader with level := reader.level.add part }

/-- Begins a new alternative. -/
def divide (reader : Reader) : Reader := { reader with level := reader.level.divide }

/-- Opens a group. -/
def enter (reader : Reader) (kind : GroupKind) (spaced : Bool) : Reader :=
  { reader with
    spaced
    level := {}
    groups := { kind, before := reader.level, spaced := reader.spaced } :: reader.groups }

/-- Opens a group that is counted. -/
def enterCounted (reader : Reader) : Reader :=
  { reader.enter (.numbered (reader.counted + 1)) reader.spaced with
    counted := reader.counted + 1 }

/-- Opens a group with a name that no other group has. -/
def enterAs? (reader : Reader) (name : List Char) : Option Reader :=
  if reader.names.contains name then none
  else some { reader.enterCounted with names := name :: reader.names }

/-- Reads the name of a group, which opens. -/
def enterNamed? (reader : Reader) (text : List Char) : Option (Reader × List Char) := do
  let (name, rest) ← groupName? text
  (reader.enterAs? name).map fun next => (next, rest)

/-- Changes flags for a group that opens, or for the rest of the group around them. -/
def change? (reader : Reader) (changes : List ModeChange) (opens : Bool) : Option Reader :=
  let spaced := spacedAfter changes reader.spaced
  if opens then some (reader.enter (.plain changes) spaced)
  else if changes.isEmpty then none
  else some { reader.add (.flags changes) with spaced }

/-- Reads flags. -/
def changeFlags? (reader : Reader) (text : List Char) : Option (Reader × List Char) := do
  let ((changes, opens), rest) ← flags? [] text
  (reader.change? changes opens).map fun next => (next, rest)

/-- Reads what follows an angle bracket: the name of a group, unless it asks for the text before. -/
def openAngled? (reader : Reader) : List Char → Option (Reader × List Char)
  | '=' :: _ | '!' :: _ => none
  | rest => reader.enterNamed? rest

/-- Reads what follows an opening parenthesis and a question mark. -/
def openMarked? (reader : Reader) : List Char → Option (Reader × List Char)
  | '=' :: _ | '!' :: _ => none
  | '<' :: rest => reader.openAngled? rest
  | 'P' :: '<' :: rest => reader.enterNamed? rest
  | rest => reader.changeFlags? rest

/-- Reads what follows an opening parenthesis: a group opens or flags are changed. -/
def open? (reader : Reader) (text : List Char) : Option (Reader × List Char) :=
  match gap reader.spaced text with
  | '?' :: rest => reader.openMarked? rest
  | rest => some (reader.enterCounted, rest)

/-- Closes the innermost group. -/
def close? (reader : Reader) : Option Reader :=
  match reader.groups with
  | [] => none
  | group :: outer =>
    some { reader with
      spaced := group.spaced
      level := group.before.add (.group group.kind reader.level.tree)
      groups := outer }

/-- Repeats the last part. -/
def repeat? (reader : Reader) (count : Count) : Option Reader :=
  match reader.level.parts with
  | [] => none
  | body :: before =>
    if body.isRepeatable && body.nesting < Tree.maxNesting then
      some { reader with
        level := { reader.level with
          parts := .repeated body count.least count.most count.short :: before } }
    else none

/-- Repeats the last part as a sign of repetition says. -/
def repeatSign? (reader : Reader) (least : Nat) (most : Option Nat) (text : List Char) :
    Option (Reader × List Char) :=
  match Count.complete least most text with
  | (count, rest) => (reader.repeat? count).map fun next => (next, rest)

/-- Repeats the last part as a count in braces says. -/
def repeatBraced? (reader : Reader) (text : List Char) : Option (Reader × List Char) := do
  let (count, rest) ← Count.braced? reader.spaced text
  (reader.repeat? count).map fun next => (next, rest)

/-- The part that an escape stands for. -/
def escaped : Escape → Tree
  | .letter letter => .letter letter
  | .oneOf members => .oneOf members
  | .place place => .place place

/-- Reads from a character that is not skipped, with the text after it. -/
def step? (reader : Reader) (c : Char) (rest : List Char) : Option (Reader × List Char) :=
  match c with
  | '(' => if reader.groups.length < Tree.maxNesting then reader.open? rest else none
  | ')' => reader.close?.map fun next => (next, rest)
  | '|' => some (reader.divide, rest)
  | '[' => (Bracket.read? reader.spaced rest).map fun (members, after) =>
      (reader.add (.oneOf members), after)
  | '?' => reader.repeatSign? 0 (some 1) rest
  | '*' => reader.repeatSign? 0 none rest
  | '+' => reader.repeatSign? 1 none rest
  | '{' => reader.repeatBraced? rest
  | '\\' => (Escape.read? reader.spaced rest).map fun (escape, after) =>
      (reader.add (escaped escape), after)
  | '.' => some (reader.add .dot, rest)
  | '^' => some (reader.add (.place .lineStart), rest)
  | '$' => some (reader.add (.place .lineEnd), rest)
  | _ => some (reader.add (.letter { char := c }), rest)

/-- Reads a text to the end.  Every step reads at least one character, so that the retained fuel
need not be more than the length of the text. -/
def run? : Nat → Reader → List Char → Option Reader
  | 0, _, _ => none
  | fuel + 1, reader, text =>
    match gap reader.spaced text with
    | [] => some reader
    | c :: rest =>
      match reader.step? c rest with
      | some (next, after) => run? fuel next after
      | none => none

end Reader

namespace Tree

/-- What a text says as a pattern, if it is one and does not nest too deeply. -/
def ofText? (text : String) : Option Tree :=
  match Reader.run? (text.length + 1) {} text.toList with
  | some reader =>
    if reader.groups.isEmpty && reader.level.tree.nesting ≤ maxNesting then some reader.level.tree
    else none
  | none => none

end Tree
end Pattern
end JavaTypes
