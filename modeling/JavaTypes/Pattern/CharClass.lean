import JavaTypes.Pattern.Modes
import JavaTypes.Text.Fold
import JavaTypes.Text.NamedSet

/-!
# Character classes

Sets of characters as patterns write them, and the sets that they stand for.  Where case is ignored,
a class is completed by the other forms of its letters before it is negated.  Where characters are
those of ASCII, a class that would have other members is refused.
-/

namespace JavaTypes
namespace Pattern

open Text (CodeSet)

/-- A character as it is written. -/
structure Letter where
  char : Char
  /-- Whether it is written as a byte, that is, by two hexadecimal digits. -/
  isByte : Bool := false
  deriving DecidableEq, Repr

/-- The kinds of characters with an escape of their own. -/
inductive CharKind where
  | digit
  | space
  | word
  deriving DecidableEq, Repr

/-- The name in braces of a property of characters. -/
inductive PropertyName where
  | alone (name : List Char)
  /-- A property together with one of its values. -/
  | valued (property value : List Char)
  deriving DecidableEq, Repr

/-- An operation between the sides of a class. -/
inductive SetOperation where
  | inter
  | diff
  | symmetricDiff
  deriving DecidableEq, Repr

/-- A class of characters as it is written. -/
inductive CharClass where
  | nothing
  | letter (letter : Letter)
  | range (first last : Letter)
  | kind (kind : CharKind) (negated : Bool)
  | property (name : PropertyName) (negated : Bool)
  /-- A class named within brackets and colons. -/
  | named (members : CodeSet) (negated : Bool)
  | bracket (body : CharClass) (negated : Bool)
  /-- A member of a class and the members after it. -/
  | union (first rest : CharClass)
  | operation (operation : SetOperation) (left right : CharClass)
  deriving DecidableEq, Repr

namespace SetOperation

/-- The result of an operation. -/
def apply : SetOperation → CodeSet → CodeSet → CodeSet
  | inter => CodeSet.inter
  | diff => CodeSet.diff
  | symmetricDiff => CodeSet.symmetricDiff

end SetOperation

namespace CharKind

/-- The members of a kind. -/
def members : CharKind → CodeSet
  | digit => Text.Category.decimalNumber.members
  | space => Text.Property.whiteSpace
  | word => Text.Property.word

/-- The members of a kind in the range of ASCII. -/
def asciiMembers : CharKind → CodeSet
  | digit => .range 0x30 0x39
  | space => .ofIntervals [⟨0x09, 0x0D⟩, ⟨0x20, 0x20⟩]
  | word => Text.Property.asciiWord

end CharKind

namespace PropertyName

/-- The characters with a property, if there is one of this name. -/
def members? : PropertyName → Option CodeSet
  | alone name => CodeSet.named? name
  | valued property value => CodeSet.withValue? property value

end PropertyName

namespace Modes

/-- Adds the other forms of letters where case is ignored. -/
def fold (modes : Modes) (set : CodeSet) : CodeSet :=
  if modes.ignoresCase then
    if modes.unicode then set.withCaseForms else set.withAsciiCaseForms
  else set

/-- The complement of a set where one is asked for.  Its members are never all in ASCII. -/
def negate? (modes : Modes) (negated : Bool) (set : CodeSet) : Option CodeSet :=
  if negated then if modes.unicode then some set.complement else none
  else some set

/-- The code point of a letter of a class. -/
def classCode? (modes : Modes) (letter : Letter) : Option Nat :=
  if modes.unicode || letter.char ≤ '\x7F' then some letter.char.toNat else none

end Modes

namespace CharClass

/-- The classes with a name within brackets and colons. -/
def ascii? (name : String) : Option CodeSet :=
  match name with
  | "alnum" => some (.ofIntervals [⟨0x30, 0x39⟩, ⟨0x41, 0x5A⟩, ⟨0x61, 0x7A⟩])
  | "alpha" => some (.ofIntervals [⟨0x41, 0x5A⟩, ⟨0x61, 0x7A⟩])
  | "ascii" => some (.range 0 0x7F)
  | "blank" => some (.ofIntervals [⟨0x09, 0x09⟩, ⟨0x20, 0x20⟩])
  | "cntrl" => some (.ofIntervals [⟨0x00, 0x1F⟩, ⟨0x7F, 0x7F⟩])
  | "digit" => some CharKind.digit.asciiMembers
  | "graph" => some (.range 0x21 0x7E)
  | "lower" => some (.range 0x61 0x7A)
  | "print" => some (.range 0x20 0x7E)
  | "punct" => some (.ofIntervals [⟨0x21, 0x2F⟩, ⟨0x3A, 0x40⟩, ⟨0x5B, 0x60⟩, ⟨0x7B, 0x7E⟩])
  | "space" => some CharKind.space.asciiMembers
  | "upper" => some (.range 0x41 0x5A)
  | "word" => some CharKind.word.asciiMembers
  | "xdigit" => some (.ofIntervals [⟨0x30, 0x39⟩, ⟨0x41, 0x46⟩, ⟨0x61, 0x66⟩])
  | _ => none

/-- The set that a class stands for in given modes. -/
def members? (modes : Modes) : CharClass → Option CodeSet
  | nothing => some .empty
  | letter written => (modes.classCode? written).map fun code => .range code code
  | range first last => do
    let first ← modes.classCode? first
    let last ← modes.classCode? last
    some (.range first last)
  | kind chosen negated =>
    modes.negate? negated (if modes.unicode then chosen.members else chosen.asciiMembers)
  | property name negated =>
    if modes.unicode then name.members?.bind fun set => modes.negate? negated (modes.fold set)
    else none
  | named set negated => modes.negate? negated (modes.fold set)
  | bracket body negated =>
    (members? modes body).bind fun set => modes.negate? negated (modes.fold set)
  | union first rest => do
    let first ← members? modes first
    let rest ← members? modes rest
    some (first.union rest)
  | operation chosen left right => do
    let left ← members? modes left
    let right ← members? modes right
    some (chosen.apply (modes.fold left) (modes.fold right))

/-- How deeply a class nests brackets, operations and lists of members. -/
def nesting : CharClass → Nat
  | bracket body _ => body.nesting + 1
  | union first rest =>
    max (first.nesting + 1) (match rest with
      | union _ _ => rest.nesting
      | _ => rest.nesting + 1)
  | operation _ left right => max left.nesting right.nesting + 1
  | _ => 0

/-- The class of several members, which come last first. -/
def ofMembers : List CharClass → CharClass
  | [] => nothing
  | last :: before => before.foldl (fun rest member => union member rest) last

end CharClass
end Pattern
end JavaTypes
