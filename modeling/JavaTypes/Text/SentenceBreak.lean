import JavaTypes.Text.WordBreak

/-!
# Characters at the edges of sentences

A sentence ends after its full stop, unless what follows shows that it goes on.  The class of a
character says what it does there; no character is of two classes, and most are of none.
-/

namespace JavaTypes
namespace Text

/-- How a character behaves at the edges of sentences. -/
inductive SentenceBreak where
  | carriageReturn
  | lineFeed
  | separator
  | extend
  | format
  | space
  | lower
  | upper
  | otherLetter
  | numeric
  | fullStop
  | terminator
  | close
  | continuation
  deriving DecidableEq, Repr

namespace SentenceBreak

open CodeSet

/-- Characters that go with the one before them. -/
def extenders : CodeSet :=
  unions [Property.graphemeExtend, Category.spacingMark.members, range 0x200D 0x200D]

/-- Lowercase letters.  Those of Georgian begin sentences too and do not count. -/
def lowerLetters : CodeSet :=
  Property.lowercase.diff
    (unions [Property.graphemeExtend, range 0x10D0 0x10FA, range 0x10FD 0x10FF])

/-- Letters that a sentence may begin with.  Georgian capitals write whole sentences and do not
count. -/
def upperLetters : CodeSet :=
  (Property.uppercase.union Category.titlecaseLetter.members).diff
    (unions [range 0x1C90 0x1CBA, range 0x1CBD 0x1CBF])

/-- Full stops, which are also written after abbreviations. -/
def fullStops : CodeSet := ofCodes [0x2E, 0x2024, 0xFE52, 0xFF0E]

/-- The characters of a class. -/
def members : SentenceBreak → CodeSet
  | carriageReturn => single '\x0D'
  | lineFeed => single '\n'
  | separator => ofCodes [0x85, 0x2028, 0x2029]
  | extend => extenders
  | format => Category.format.members.diff (extenders.union WordBreak.numberMarks)
  | space => Property.whiteSpace.diff (ofCodes [0xA, 0xD, 0x85, 0x2028, 0x2029])
  | lower => lowerLetters
  | upper => upperLetters
  | otherLetter =>
    (Property.alphabetic.union (range 0x5F3 0x5F3)).diff
      (unions [lowerLetters, upperLetters, extenders])
  | numeric => WordBreak.numberParts.union (range 0x66C 0x66C)
  | fullStop => fullStops
  | terminator => (ofRuns Property.sentenceTerminalRuns).diff fullStops
  | close =>
    (Category.membersOf
      [.openPunctuation, .closePunctuation, .initialPunctuation, .finalPunctuation]).union
      (ofIntervals [⟨0x22, 0x22⟩, ⟨0x27, 0x27⟩, ⟨0x275B, 0x2760⟩, ⟨0x2E00, 0x2E01⟩,
        ⟨0x2E06, 0x2E08⟩, ⟨0x2E0B, 0x2E0B⟩, ⟨0x1F676, 0x1F678⟩])
  | continuation =>
    ofCodes [0x2C, 0x2D, 0x3A, 0x3B, 0x37E, 0x55D, 0x60C, 0x60D, 0x7F8, 0x1802, 0x1808, 0x2013,
      0x2014, 0x3001, 0xFE10, 0xFE11, 0xFE13, 0xFE14, 0xFE31, 0xFE32, 0xFE50, 0xFE51, 0xFE54,
      0xFE55, 0xFE58, 0xFE63, 0xFF0C, 0xFF0D, 0xFF1A, 0xFF1B, 0xFF64]

/-- The class with a name or a code, in lower case without separators. -/
def named? (name : String) : Option SentenceBreak :=
  match name with
  | "cr" => some carriageReturn
  | "lf" => some lineFeed
  | "sep" | "se" => some separator
  | "extend" | "ex" => some extend
  | "format" | "fo" => some format
  | "sp" => some space
  | "lower" | "lo" => some lower
  | "upper" | "up" => some upper
  | "oletter" | "le" => some otherLetter
  | "numeric" | "nu" => some numeric
  | "aterm" | "at" => some fullStop
  | "sterm" | "st" => some terminator
  | "close" | "cl" => some close
  | "scontinue" | "sc" => some continuation
  | _ => none

end SentenceBreak
end Text
end JavaTypes
