/-!
# Modes of reading a pattern

Flags inside of a pattern change what its parts mean from there to the end of the group.
-/

namespace JavaTypes
namespace Pattern

/-- What a flag of a pattern switches. -/
inductive Mode where
  /-- Letters match whatever their case. -/
  | ignoresCase
  /-- The signs for the ends of the text stand for the ends of lines. -/
  | byLines
  /-- The dot includes the ends of lines. -/
  | dotAll
  /-- Repetitions are short unless they are marked. -/
  | prefersShort
  /-- Characters are those of Unicode rather than of ASCII. -/
  | unicode
  /-- A carriage return ends a line too. -/
  | carriageReturns
  /-- Blanks and comments between the parts are skipped. -/
  | spaced
  deriving DecidableEq, Repr

/-- A flag that sets a mode or, after a hyphen, clears it. -/
structure ModeChange where
  mode : Mode
  value : Bool
  deriving DecidableEq, Repr

/-- The modes in which a part of a pattern is read. -/
structure Modes where
  ignoresCase : Bool := false
  byLines : Bool := false
  dotAll : Bool := false
  prefersShort : Bool := false
  unicode : Bool := true
  carriageReturns : Bool := false
  spaced : Bool := false
  deriving DecidableEq, Repr

namespace Mode

/-- The letter of the flag for a mode. -/
def letter : Mode → Char
  | ignoresCase => 'i'
  | byLines => 'm'
  | dotAll => 's'
  | prefersShort => 'U'
  | unicode => 'u'
  | carriageReturns => 'R'
  | spaced => 'x'

/-- Every mode. -/
def all : List Mode :=
  [ignoresCase, byLines, dotAll, prefersShort, unicode, carriageReturns, spaced]

/-- The mode whose flag is a given letter. -/
def ofLetter? (c : Char) : Option Mode := all.find? fun mode => mode.letter == c

end Mode

namespace Modes

/-- Sets or clears one mode. -/
def change (modes : Modes) (change : ModeChange) : Modes :=
  match change.mode with
  | .ignoresCase => { modes with ignoresCase := change.value }
  | .byLines => { modes with byLines := change.value }
  | .dotAll => { modes with dotAll := change.value }
  | .prefersShort => { modes with prefersShort := change.value }
  | .unicode => { modes with unicode := change.value }
  | .carriageReturns => { modes with carriageReturns := change.value }
  | .spaced => { modes with spaced := change.value }

/-- Makes several changes, one after the other. -/
def changed (modes : Modes) (changes : List ModeChange) : Modes := changes.foldl change modes

end Modes

end Pattern
end JavaTypes
