import JavaTypes.Text.Property

/-!
# Characters at the edges of clusters

A cluster is what a reader takes for one character.  Marks join what stands before them, Hangul
letters join to syllables and control characters stand alone; the class of a character says which of
these holds of it.  No character is of two classes, and most are of none.
-/

namespace JavaTypes
namespace Text

/-- How a character behaves at the edges of clusters. -/
inductive ClusterBreak where
  | carriageReturn
  | lineFeed
  | control
  | extend
  | joiner
  | regionalIndicator
  | leading
  | spacingMark
  | initialJamo
  | vowelJamo
  | finalJamo
  | openSyllable
  | closedSyllable
  deriving DecidableEq, Repr

namespace ClusterBreak

open CodeSet

/-- Characters that a cluster goes on with, however they look. -/
def extenders : CodeSet := Property.graphemeExtend.union Property.emojiModifier

/-- Characters that stand before a number or a text and span it. -/
def spanners : CodeSet := ofRuns Property.prependedMarkRuns

/-- Letters that begin a cluster without being enough for one. -/
def leadingLetters : CodeSet :=
  ofIntervals [⟨0xD4E, 0xD4E⟩, ⟨0x111C2, 0x111C3⟩, ⟨0x113D1, 0x113D1⟩, ⟨0x1193F, 0x1193F⟩,
    ⟨0x11941, 0x11941⟩, ⟨0x11A3A, 0x11A3A⟩, ⟨0x11A84, 0x11A89⟩, ⟨0x11D46, 0x11D46⟩,
    ⟨0x11F02, 0x11F02⟩]

/-- Marks that take space and yet begin clusters. -/
def separateMarks : CodeSet :=
  ofIntervals [⟨0x102B, 0x102C⟩, ⟨0x1038, 0x1038⟩, ⟨0x1062, 0x1064⟩, ⟨0x1067, 0x106D⟩,
    ⟨0x1083, 0x1083⟩, ⟨0x1087, 0x108C⟩, ⟨0x108F, 0x108F⟩, ⟨0x109A, 0x109C⟩, ⟨0x1A61, 0x1A61⟩,
    ⟨0x1A63, 0x1A64⟩, ⟨0xAA7B, 0xAA7B⟩, ⟨0xAA7D, 0xAA7D⟩, ⟨0x11720, 0x11721⟩]

/-- Characters without a shape, among them code points reserved for such characters. -/
def shapeless : CodeSet :=
  (Category.membersOf [.lineSeparator, .paragraphSeparator, .control, .format]).union
    (Category.unassigned.inter Property.defaultIgnorable)

/-- The Hangul syllables without a final consonant, which are every twenty-eighth of all. -/
def openSyllables : CodeSet := ofRuns [⟨0xAC00, 0xD788, 28⟩]

/-- The characters of a class. -/
def members : ClusterBreak → CodeSet
  | carriageReturn => single '\x0D'
  | lineFeed => single '\n'
  | control =>
    shapeless.diff
      (unions [ofChars ['\n', '\x0D'], Property.joinControl, spanners, extenders])
  | extend => extenders
  | joiner => range 0x200D 0x200D
  | regionalIndicator => Property.regionalIndicator
  | leading => spanners.union leadingLetters
  | spacingMark =>
    ((Category.spacingMark.members.union (ofCodes [0xE33, 0xEB3])).diff extenders).diff
      separateMarks
  | initialJamo => ofIntervals [⟨0x1100, 0x115F⟩, ⟨0xA960, 0xA97C⟩]
  | vowelJamo =>
    ofIntervals [⟨0x1160, 0x11A7⟩, ⟨0xD7B0, 0xD7C6⟩, ⟨0x16D63, 0x16D63⟩, ⟨0x16D67, 0x16D6A⟩]
  | finalJamo => ofIntervals [⟨0x11A8, 0x11FF⟩, ⟨0xD7CB, 0xD7FB⟩]
  | openSyllable => openSyllables
  | closedSyllable => (range 0xAC00 0xD7A3).diff openSyllables

/-- The class with a name or a code, in lower case without separators. -/
def named? (name : String) : Option ClusterBreak :=
  match name with
  | "cr" => some carriageReturn
  | "lf" => some lineFeed
  | "control" | "cn" => some control
  | "extend" | "ex" => some extend
  | "zwj" => some joiner
  | "regionalindicator" | "ri" => some regionalIndicator
  | "prepend" | "pp" => some leading
  | "spacingmark" | "sm" => some spacingMark
  | "l" => some initialJamo
  | "v" => some vowelJamo
  | "t" => some finalJamo
  | "lv" => some openSyllable
  | "lvt" => some closedSyllable
  | _ => none

end ClusterBreak
end Text
end JavaTypes
