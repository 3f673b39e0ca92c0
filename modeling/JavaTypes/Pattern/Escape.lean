import JavaTypes.Pattern.Tree
import JavaTypes.Text.Numeral

/-!
# Escapes

What a backslash and the characters after it stand for.  In the mode for it, blanks and comments are
skipped even between the digits of a code and the letters of a name; `gap` is what skips them.
-/

namespace JavaTypes
namespace Pattern

/-- What an escape stands for. -/
inductive Escape where
  | letter (letter : Letter)
  | oneOf (members : CharClass)
  | place (place : Place)
  deriving DecidableEq, Repr

/-- A text without the blanks and comments that it starts with.  A comment goes up to the end of
its line. -/
def skipBlanks (inComment : Bool) : List Char → List Char
  | [] => []
  | c :: rest =>
    if inComment then skipBlanks (c != '\n') rest
    else if c == '#' then skipBlanks true rest
    else if Text.isBlank c then skipBlanks false rest
    else c :: rest

/-- Skips what the mode says is to be skipped. -/
def gap (spaced : Bool) (text : List Char) : List Char :=
  if spaced then skipBlanks false text else text

namespace Escape

/-- Whether an escape stands for a place rather than for characters. -/
def isPlace : Escape → Bool
  | place _ => true
  | letter _ | oneOf _ => false

/-- Characters that have a meaning of their own. -/
def isMeta (c : Char) : Bool := "\\.+*?()|[]\x7b\x7d^$#&-~".toList.contains c

/-- Characters that may follow a backslash to stand for themselves. -/
def standsForItself (c : Char) : Bool :=
  isMeta c || (c ≤ '\x7F' && !c.isAlphanum && c != '<' && c != '>')

/-- What stands before a closing brace, less what is skipped, and what follows the brace. -/
def braced? (spaced inComment : Bool) : List Char → Option (List Char × List Char)
  | [] => none
  | c :: rest =>
    if inComment then braced? spaced (c != '\n') rest
    else if spaced && c == '#' then braced? spaced true rest
    else if spaced && Text.isBlank c then braced? spaced false rest
    else if c == '}' then some ([], rest)
    else
      match braced? spaced false rest with
      | some (before, after) => some (c :: before, after)
      | none => none

/-- A number of hexadecimal digits and what follows them. -/
def hexDigits? (spaced : Bool) : Nat → List Char → Option (List Char × List Char)
  | 0, text => some ([], text)
  | _ + 1, [] => none
  | count + 1, c :: rest =>
    if Text.isDigitOf 16 c then
      match hexDigits? spaced count (gap spaced rest) with
      | some (digits, after) => some (c :: digits, after)
      | none => none
    else none

/-- The character with a hexadecimal code. -/
def charOfCode? (digits : List Char) : Option Char :=
  (Text.readNat? 16 digits).bind fun code =>
    if code.isValidChar then some (Char.ofNat code) else none

/-- A character by its code, in braces or with a fixed number of digits.  Two digits make a byte. -/
def code? (spaced : Bool) (width : Nat) (text : List Char) : Option (Escape × List Char) :=
  match gap spaced text with
  | '{' :: rest => do
    let (digits, after) ← braced? spaced false rest
    let c ← charOfCode? digits
    some (.letter { char := c }, after)
  | rest => do
    let (digits, after) ← hexDigits? spaced width rest
    let c ← charOfCode? digits
    some (.letter { char := c, isByte := width == 2 }, after)

/-- The two sides of a name where a sign within it separates a property from a value. -/
def sides? (sign : List Char) (name : List Char) : Option (List Char × List Char) :=
  match name with
  | [] => none
  | c :: rest =>
    if sign.isPrefixOf (c :: rest) then some ([], (c :: rest).drop sign.length)
    else
      match sides? sign rest with
      | some (before, after) => some (c :: before, after)
      | none => none

/-- What a name in braces stands for: a property, or that a property does not have a value. -/
def named (negated : Bool) (name : List Char) : CharClass :=
  match sides? ['!', '='] name with
  | some (property, value) => .property (.valued property value) !negated
  | none =>
    match (sides? [':'] name <|> sides? ['='] name) with
    | some (property, value) => .property (.valued property value) negated
    | none => .property (.alone name) negated

/-- A property of characters, named in braces or by one letter. -/
def property? (spaced negated : Bool) (text : List Char) : Option (Escape × List Char) :=
  match gap spaced text with
  | '{' :: rest => do
    let (name, after) ← braced? spaced false rest
    some (.oneOf (named negated name), after)
  | '\\' :: _ | [] => none
  | c :: after => some (.oneOf (.property (.alone [c]) negated), after)

/-- The side of a word with a given name. -/
def edge? (name : String) : Option Edge :=
  match name with
  | "start" => some .start
  | "end" => some .finish
  | "start-half" => some .startHalf
  | "end-half" => some .finishHalf
  | _ => none

/-- A side of a word after its letter.  A name in braces says which side; if what stands in the
braces does not begin like a name, they count a repetition. -/
def boundary? (spaced : Bool) (text : List Char) : Option (Escape × List Char) :=
  match text with
  | '{' :: rest =>
    match gap spaced rest with
    | [] => none
    | c :: _ =>
      if c.isAlpha || c == '-' then do
        let (name, after) ← braced? spaced false rest
        let edge ← edge? (String.ofList name)
        some (.place (.word edge), after)
      else some (.place (.word .boundary), text)
  | _ => some (.place (.word .boundary), text)

/-- A class with a letter of its own. -/
def kind (chosen : CharKind) (negated : Bool) : Escape := .oneOf (.kind chosen negated)

/-- What the characters after a backslash stand for, and what follows them. -/
def read? (spaced : Bool) : List Char → Option (Escape × List Char)
  | [] => none
  | 'x' :: rest => code? spaced 2 rest
  | 'u' :: rest => code? spaced 4 rest
  | 'U' :: rest => code? spaced 8 rest
  | 'p' :: rest => property? spaced false rest
  | 'P' :: rest => property? spaced true rest
  | 'd' :: rest => some (kind .digit false, rest)
  | 'D' :: rest => some (kind .digit true, rest)
  | 's' :: rest => some (kind .space false, rest)
  | 'S' :: rest => some (kind .space true, rest)
  | 'w' :: rest => some (kind .word false, rest)
  | 'W' :: rest => some (kind .word true, rest)
  | 'a' :: rest => some (.letter { char := '\x07' }, rest)
  | 'f' :: rest => some (.letter { char := '\x0C' }, rest)
  | 't' :: rest => some (.letter { char := '\t' }, rest)
  | 'n' :: rest => some (.letter { char := '\n' }, rest)
  | 'r' :: rest => some (.letter { char := '\x0D' }, rest)
  | 'v' :: rest => some (.letter { char := '\x0B' }, rest)
  | 'A' :: rest => some (.place .textStart, rest)
  | 'z' :: rest => some (.place .textEnd, rest)
  | 'b' :: rest => boundary? spaced rest
  | 'B' :: rest => some (.place (.word .noBoundary), rest)
  | '<' :: rest => some (.place (.word .start), rest)
  | '>' :: rest => some (.place (.word .finish), rest)
  | c :: rest => if standsForItself c then some (.letter { char := c }, rest) else none

end Escape
end Pattern
end JavaTypes
